import TestMigration.Proofs.Extraction.Effects
import TestMigration.Proofs.Linking.Colours
import TestMigration.Proofs.Linking.Resolution
import TestMigration.Syntax.Reading
/-!
# Calls on `super`

A class that overrides a method can still call the method it overrides, on `super`. But `super` is
read as `this`, so the call is one of the class itself, and the way up to its method starts there.
It leads to a superclass exactly if the class does not declare such a method
(`super_calls_lead_up_iff`). A method that calls the one it overrides leads to itself, and its
project is not linked.
-/

namespace TestMigration.Linking

open Syntax Extraction TestMigration.Action Text

/-! ### Reading the call -/

def ReadAs (ctx : Context) (target : Expr) (method : String) (args : List Expr) (c : Call) : Prop :=
  ∃ r scope text s s',
    (projectCall? r scope (some target) method args text).runFrom ctx s = (.ok (some c), s')

theorem length_of_mapM {α β : Type} {f : α → Extract β} {l : List α} {ctx : Context} {s s' : State}
    {l' : List β} (h : (l.mapM f).runFrom ctx s = (.ok l', s')) : l'.length = l.length := by
  induction l generalizing s l' with
  | nil =>
    cases h
    rfl
  | cons a _ ih =>
    rw [List.mapM_cons] at h
    obtain ⟨b, _, -, h⟩ := exists_of_runFrom_bind h
    obtain ⟨_, _, hrest, h⟩ := exists_of_runFrom_bind h
    cases h
    rw [List.length_cons, ih hrest, List.length_cons]

theorem call_of_readAs_this {ctx : Context} {text : String} {span : Span} {method : String}
    {args : List Expr} {c : Call} (h : ReadAs ctx (.this text span) method args c) :
    c.targetType = ctx.decl.name ∧ c.method = method ∧ c.arity = args.length := by
  obtain ⟨r, _, text, s, _, h⟩ := h
  obtain ⟨found, _, htarget, h⟩ := exists_of_runFrom_bind h
  cases found with
  | none => cases h
  | some found =>
    have howner : found.1 = ctx.decl.name := by
      unfold callTarget? at htarget
      rw [runFrom_bind_ok runFrom_read] at htarget
      simp only [Bool.false_and, Bool.false_eq_true, if_false, bne_self_eq_false] at htarget
      split at htarget <;> cases htarget
      rfl
    obtain ⟨_, _, hvalues, h⟩ := exists_of_runFrom_bind h
    cases h
    exact ⟨howner, rfl, length_of_mapM hvalues⟩

/-! ### The way up from a class -/

theorem methodFrom_of_lineage {p : Project} {c : Call} {u owner : SourceUnit}
    {above : List SourceUnit}
    (h : p.Lineage c u above owner) (caller : SourceUnit) (line : Nat) (target : String) {n : Nat}
    {seen : List String} (hnodup : ((u :: above).map SourceUnit.unitName).Nodup)
    (hseen : ∀ w ∈ u :: above, w.unitName ∉ seen) (hn : above.length < n) :
    (p.methodFrom c caller line target n seen (some u)).1 =
      some ⟨owner.unitName, c.method, c.arity⟩ := by
  induction h generalizing n seen with
  | here hm =>
    obtain ⟨n, rfl⟩ := Nat.exists_eq_succ_of_ne_zero (Nat.ne_of_gt hn)
    rw [Project.methodFrom, if_neg (by simpa using hseen), hm]
  | @up u v owner above hnone hsuper _ ih =>
    obtain ⟨n, rfl⟩ := Nat.exists_eq_succ_of_ne_zero (Nat.ne_of_gt (Nat.zero_lt_of_lt hn))
    rw [List.map_cons, List.nodup_cons] at hnodup
    rw [Project.methodFrom, if_neg (by simpa using hseen u List.mem_cons_self), hnone]
    dsimp only
    rw [hsuper]
    refine ih hnodup.2 (fun w hw hmem => ?_) (Nat.lt_of_succ_lt_succ hn)
    rcases List.mem_cons.mp hmem with hname | hmem
    · exact hnodup.1 (hname ▸ List.mem_map_of_mem hw)
    · exact hseen w (List.mem_cons_of_mem _ hw) hmem

theorem readCall_of_lineage {p : Project} {failed : Table String String}
    {caller u owner : SourceUnit} {c : Call} {line : Nat} {above : List SourceUnit}
    (hfound : p.resolveType c.targetType caller = .found u) (hu : u ∈ p.units)
    (hway : p.Lineage c u above owner) (hnodup : ((u :: above).map SourceUnit.unitName).Nodup) :
    readCall p failed caller c line = .linked ⟨owner.unitName, c.method, c.arity⟩ := by
  have hlength : (u :: above).length ≤ p.units.length := by
    have hsub : (u :: above).map SourceUnit.unitName ⊆ p.units.map SourceUnit.unitName :=
      List.map_subset _ (hway.mem hu)
    simpa using (hnodup.subperm hsub).length_le
  have hmethod : (p.resolveMethod u c caller line).1 = some ⟨owner.unitName, c.method, c.arity⟩ :=
    methodFrom_of_lineage hway caller line _ hnodup (by simp) (Nat.lt_add_right 1 hlength)
  unfold readCall
  rw [hfound]
  dsimp only
  rcases hresult : p.resolveMethod u c caller line with ⟨_, _⟩
  rw [hresult] at hmethod
  cases hmethod
  rfl

/-! ### Calls on `super` -/

/-- **Where calls on `super` lead.** From the superclass of a class there is a way up to the method
of a call on `super`. The call is the same as with `this`. It leads up there exactly if the class
does not declare such a method. Otherwise it leads to that; and if it stands in that very method,
linking reports a circle. -/
theorem super_calls_lead_up_iff {src : Source} {node : Node} {ctx : Context} {method : String}
    {args : List Expr} {c : Call}
    (hread : ReadAs ctx (terminalExpr src (.fixed "super") node) method args c)
    {units : List SourceUnit} {u v owner : SourceUnit} {above : List SourceUnit}
    (hu : u ∈ (Project.ofUnits units).units)
    (hown : (Project.ofUnits units).resolveType ctx.decl.name u = .found u)
    (hsuper : ((Project.ofUnits units).superclass? u).1 = some v)
    (hway : (Project.ofUnits units).Lineage c v above owner)
    (hnodup : ((u :: v :: above).map SourceUnit.unitName).Nodup) (failed : List String) :
    ReadAs ctx (terminalExpr src (.fixed "this") node) method args c ∧
      (∀ line, readCall (Project.ofUnits units) (failedNames failed) u c line =
          .linked ⟨owner.unitName, method, args.length⟩ ↔
        u.findMethods method (some args.length) = []) ∧
      ∀ m, u.findMethods method (some args.length) = [m] →
        (∀ line, readCall (Project.ofUnits units) (failedNames failed) u c line =
          .linked (methodKey u m)) ∧
        (IdsAgree (Project.ofUnits units) → c ∈ calls m.actions →
          (Project.ofUnits units).recorded? (methodKey u m) = some m →
          (linksOf units failed).issues = [] →
          ∃ issues, link units failed = .error issues ∧ ∀ i ∈ issues, i.cause.kind = .cycle) := by
  obtain ⟨htype, rfl, harity⟩ := call_of_readAs_this hread
  rw [← harity]
  rw [← htype] at hown
  have hhome : ∀ m, u.findMethods c.method (some c.arity) = [m] → ∀ line,
      readCall (Project.ofUnits units) (failedNames failed) u c line = .linked (methodKey u m) := by
    intro m hm line
    have hmem : m ∈ u.findMethods c.method (some c.arity) := hm ▸ List.mem_singleton.mpr rfl
    obtain ⟨hmem, hkey⟩ := List.mem_filter.mp hmem
    simp only [Bool.and_eq_true, beq_iff_eq, Option.all_some] at hkey
    rw [methodKey, hkey.1.1, hkey.2]
    exact readCall_of_lineage hown hu (.here hm) (List.nodup_singleton _)
  refine ⟨hread, fun line => ⟨fun hlinked => ?_, fun hnone => ?_⟩, fun m hm => ⟨hhome m hm, ?_⟩⟩
  · obtain ⟨_, _, _, hfound, hway', -, hkey⟩ :=
      lineage_of_linked (o := ⟨u, c, line⟩) hlinked
    cases hown.symm.trans hfound
    cases hway' with
    | up hnone => exact hnone
    | here hm =>
      -- The owner would bear the name of the class, which is not met again on the way up.
      rw [MethodKey.mk.injEq] at hkey
      rw [List.map_cons, List.nodup_cons] at hnodup
      exact absurd (hkey.1 ▸ List.mem_map_of_mem hway.owner_mem) hnodup.1
  · exact readCall_of_lineage hown hu (.up hnone hsuper hway) hnodup
  · intro hids hcall hrecorded hissues
    have hmethods : m ∈ u.methods :=
      List.mem_of_mem_filter
        (hm ▸ List.mem_singleton.mpr rfl : m ∈ u.findMethods c.method (some c.arity))
    have hbody : m.actions ∈ unitBodies u := List.mem_append_left _ (List.mem_map_of_mem hmethods)
    obtain ⟨line, ho⟩ := exists_occurrence hu hbody hcall
    have hleads : Leads (Project.ofUnits units) (linksOf units failed).resolutions (methodKey u m)
        (methodKey u m) :=
      ⟨m, hrecorded, c, hcall, get?_resolutions hissues hids ho (hhome m hm line)⟩
    have hcircle : cycleIssues (Project.ofUnits units) (linksOf units failed).resolutions ≠ [] :=
      fun hnil => (cycleIssues_eq_nil_iff _ _).mp hnil ⟨_, .single hleads⟩
    refine ⟨_, (link_eq_error_iff hissues).mpr ⟨rfl, hcircle⟩, fun i hi => ?_⟩
    obtain ⟨_, hcause, -⟩ := closedWalk_of_mem_cycleIssues hi
    rw [hcause]
    rfl

/-! ### A page that overrides a method -/

def superOpen : Call := .mk "p/Home.java#1" "Home" "open" [] .self "" "super.open()"

def basePage : SourceUnit := page "p/Base.java" "p" "Base" "" [pageMethod "open" [] []]

def overridingOpen : Method :=
  pageMethod "open" [] [.delegate { call := superOpen, provenance := ⟨"p/Home.java", 4, 4⟩ }]

def overridingPage : SourceUnit := page "p/Home.java" "p" "Home" "Base" [overridingOpen]

def overridingContext : Context where
  unitName := "p/Home.java"
  framework := ""
  imports := []
  decl :=
    { name := "Home", modifiers := [], annotations := [], superclass := some "Base",
      interfaces := []
      fields := [], nested := [], text := "", span := default
      methods := [{
        name := "open", params := [], returnType := "void", modifiers := [], annotations := []
        body := [], text := "", span := default }] }

def overriding : List SourceUnit := [basePage, overridingPage]

def superWord : Expr :=
  let characters := "super".toList
  terminalExpr ⟨characters.toArray, (tokensOf characters).toArray⟩ (.fixed "super")
    (.mk (.terminal (.fixed "super")) 0 1 [])

theorem readAs_superOpen : ReadAs overridingContext superWord "open" [] superOpen :=
  ⟨readers 0, 0, "super.open()", {}, _, rfl⟩

theorem super_calls_lead_up_iff_overriding :
    readCall (Project.ofUnits overriding) [] overridingPage superOpen 4 =
        .linked (methodKey overridingPage overridingOpen) ∧
      ∃ issues, link overriding [] = .error issues ∧ ∀ i ∈ issues, i.cause.kind = .cycle := by
  have hpage : overridingPage ∈ (Project.ofUnits overriding).units :=
    List.mem_cons_of_mem _ (List.mem_singleton.mpr rfl)
  have hway : (Project.ofUnits overriding).Lineage superOpen basePage [] basePage := .here rfl
  have hlead := (super_calls_lead_up_iff readAs_superOpen hpage rfl rfl hway (by decide) []).2.2
    overridingOpen rfl
  have hids : IdsAgree (Project.ofUnits overriding) := by
    have hcalls : occurrences (Project.ofUnits overriding) = [⟨overridingPage, superOpen, 4⟩] := rfl
    rw [IdsAgree, hcalls]
    simp
  exact ⟨hlead.1 4, hlead.2 hids (List.mem_singleton.mpr rfl) rfl rfl⟩

/-- **A call on `super` can lead to the class itself.** The superclass declares the method, and the
call leads to the overriding one, which is a circle. -/
theorem super_call_leads_home : ReadAs overridingContext superWord "open" [] superOpen ∧
    ((Project.ofUnits overriding).superclass? overridingPage).1 = some basePage ∧
    (basePage.findMethods "open" (some 0)).length = 1 ∧
    readCall (Project.ofUnits overriding) [] overridingPage superOpen 4 =
      .linked ⟨"p/Home.java", "open", 0⟩ ∧
    link overriding [] = .error [⟨"p/Home.java", 0,
      .cycle [⟨"p/Home.java", "open", 0⟩, ⟨"p/Home.java", "open", 0⟩]⟩] :=
  ⟨readAs_superOpen, rfl, rfl, rfl, rfl⟩

end TestMigration.Linking
