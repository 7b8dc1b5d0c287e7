import TestMigration.Document.Basic
import TestMigration.Profile.Basic
/-!
# Profiles as documents

A profile with all its fields, those with default values too. Reading the document of a profile
gives the profile again.
-/

namespace TestMigration

namespace Profile

open Document

def optionalText : Option String → Document
  | some s => .text s
  | none => .null

def LocatorTemplate.document (t : LocatorTemplate) : Document :=
  let (selector, expression) := match t.shape with
    | .selector template => (some template, none)
    | .expression template => (none, some template)
  .record
    [("selector", optionalText selector), ("expression", optionalText expression),
     ("escape", optionalText (t.escape.map Text.SelectorPlace.word))]

def LocatorShapes.document (l : LocatorShapes) : Document :=
  .record
    [("locate", .text l.locate), ("nth", .text l.nth),
     ("strategies", .record (l.strategies.map fun (name, t) => (name, t.document)))]

def ScriptBridge.document (s : ScriptBridge) : Document :=
  .record
    [("semantics", .text s.semantics), ("function", .text s.function), ("params", .text s.params),
     ("statement", .text s.statement), ("expression", .text s.expression),
     ("element_arg", .text s.elementArg)]

def Phrases.document (p : Phrases) : Document :=
  .record
    [("indent", .text p.indent),
     ("quote", .text p.quote),
     ("true", .text p.trueWord),
     ("false", .text p.falseWord),
     ("null", .text p.nullWord),
     ("self_ref", .text p.selfRef),
     ("operators", ofTable p.operators),
     ("not", .text p.not),
     ("contains", .text p.contains),
     ("declare", .text p.declare),
     ("declare_mutable", .text p.declareMutable),
     ("assign", .text p.assign),
     ("expression_statement", .text p.expressionStatement),
     ("await", .text p.await),
     ("if_open", .text p.ifOpen),
     ("else_open", .text p.elseOpen),
     ("try_open", .text p.tryOpen),
     ("catch_open", .text p.catchOpen),
     ("block_close", .text p.blockClose),
     ("empty_block", .text p.emptyBlock),
     ("inline_open", .text p.inlineOpen),
     ("inline_close", .text p.inlineClose),
     ("return_value", .text p.returnValue),
     ("return_void", .text p.returnVoid),
     ("comment", .text p.comment),
     ("construct", .text p.construct),
     ("list", .text p.list),
     ("message_part", .text p.messagePart),
     ("group_assert_operands", .flag p.groupAssertOperands),
     ("keywords", texts p.keywords)]

def NameStyles.document (n : NameStyles) : Document :=
  .record
    [("identifiers", .text n.identifiers.word), ("modules", .text n.modules.word),
     ("test_prefix", .text n.testStart)]

def HeaderImport.document (h : HeaderImport) : Document :=
  .record [("template", .text h.template), ("names", texts h.names)]

def FileShapes.document (f : FileShapes) : Document :=
  .record
    [("header_imports",
      .record (f.headerImports.map fun (kind, imports) =>
        (kind, .list (imports.map HeaderImport.document)))),
     ("constant", .text f.constant),
     ("top_level_gap", .int f.topLevelGap),
     ("suite_open", .text f.suiteOpen),
     ("suite_close", .text f.suiteClose),
     ("hook_before", .text f.hookBefore),
     ("hook_after", .text f.hookAfter),
     ("hooks_open", .text f.hooksOpen),
     ("hooks_yield", .text f.hooksYield),
     ("hook_close", .text f.hookClose),
     ("test_open", .text f.testOpen),
     ("test_disabled_open", .text f.testDisabledOpen),
     ("test_doc", .text f.testDoc),
     ("test_close", .text f.testClose),
     ("function_open", .text f.functionOpen),
     ("function_close", .text f.functionClose),
     ("class_open", .text f.classOpen),
     ("class_close", .text f.classClose),
     ("extends_clause", .text f.extendsClause),
     ("super_init", .text f.superInit),
     ("self_param", .text f.selfParam),
     ("field_decl", .text f.fieldDecl),
     ("constructor_open", .text f.constructorOpen),
     ("constructor_close", .text f.constructorClose),
     ("member_init", .text f.memberInit),
     ("method_open", .text f.methodOpen),
     ("static_method_open", .text f.staticMethodOpen),
     ("method_close", .text f.methodClose),
     ("param", .text f.param),
     ("untyped_param", .text f.untypedParam),
     ("return_annotation", .text f.returnType),
     ("void_type", .text f.voidType),
     ("page_param", .text f.pageParam),
     ("import_class", .text f.importClass),
     ("import_module", .text f.importModule),
     ("import_functions", .text f.importFunctions)]

end Profile

open Profile Document

def Profile.document (p : Profile) : Document :=
  .record
    [("name", .text p.name),
     ("display_name", .text p.displayName),
     ("version", .text p.version),
     ("language", .text p.language),
     ("file_extension", .text p.fileExtension),
     ("delegate_strategy", .text p.delegateStrategy.word),
     ("syntax", p.phrases.document),
     ("naming", p.styles.document),
     ("types", ofTable p.types),
     ("locators", p.locators.document),
     ("interactions", ofTable p.interactions),
     ("queries", ofTable p.queries),
     ("page_queries", ofTable p.pageQueries),
     ("waits", ofTable p.waits),
     ("asserts", ofTable p.asserts),
     ("commands", ofTable p.commands),
     ("script", p.script.document),
     ("page_ref", .text p.pageRef),
     ("member_page_ref", .text p.memberPageRef),
     ("files", p.files.document),
     ("paths", ofTable p.paths),
     ("support_files", ofTable p.supportFiles),
     ("package_marker", optionalText p.packageMarker)]

end TestMigration
