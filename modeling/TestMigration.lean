import TestMigration.Main
import TestMigration.Proofs.Conversion.OutputPlaces
import TestMigration.Proofs.Extraction.LexicalScopes
import TestMigration.Proofs.Extraction.Places
import TestMigration.Proofs.Files.ConfinedPaths
import TestMigration.Proofs.Linking.FieldCalls
import TestMigration.Proofs.Linking.SuperCalls
import TestMigration.Proofs.Number.IntegerLiterals
import TestMigration.Proofs.Rendering.CallParameters
import TestMigration.Proofs.Rendering.DemotedUnits
import TestMigration.Proofs.Rendering.HookOrder
import TestMigration.Proofs.Rendering.Interfaces
import TestMigration.Proofs.Rendering.PackageMarkers
import TestMigration.Proofs.Rendering.SplicingDepth
import TestMigration.Proofs.Rendering.Titles
import TestMigration.Proofs.Text.Quoting
import TestMigration.Proofs.Text.SelectorReading
