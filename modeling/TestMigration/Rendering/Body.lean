import TestMigration.Rendering.Value
/-!
# Bodies in the target language

A body is rendered action by action. Two things reach beyond the single action.

* **Splicing.** Under the inlining strategy a call statement is replaced by the body of the method
  it leads to, which may call further methods. A method that is being spliced already is refused, so
  along a chain of splices the methods are distinct, and the number of methods that calls lead to
  bounds its length.
* **Cleared fields.** Typing into a field that is known to be empty is written as filling it. A
  field is known to be empty from the moment it is cleared until something is done to it, or an
  action follows that might change the page.
-/

namespace TestMigration.Rendering

open TestMigration.Action Text Profile

/-! ### Statements -/

/-- The comment for a text that has no target form: one line for each of its lines. -/
def untranslated (text : String) : Render Unit := do
  let template := (← phrases).comment
  match lines (trim text) with
  | [] => comment (fill template [("text", "[untranslated] ")])
  | first :: rest =>
    comment (fill template [("text", "[untranslated] " ++ trim first)])
    rest.forM fun extra => comment (fill template [("text", trim extra)])

/-- Runs a step; where a value has no target form, its text becomes a comment. -/
def guarded (x : Render Unit) : Render Unit :=
  tryCatch x fun
    | .untranslatable text => untranslated text
    | stop => throw stop

/-- Writes a block, which gets a statement of its own if it would have none. -/
def block (x : Render Unit) : Render Unit := do
  let before ← statements
  indented do
    x
    let filler := (← phrases).emptyBlock
    if (← statements) = before && !filler.isEmpty then line filler

def closeBlock : Render Unit := do
  let closing := (← phrases).blockClose
  if !closing.isEmpty then line closing

/-- Gives a variable a value: a declaration if the variable is new, an assignment otherwise. -/
def bindLine (name text : String) (declare : Bool) : Render Unit := do
  let p ← phrases
  let f ← frame
  let target ← ident name
  let template :=
    if declare && !f.declared.contains name then
      if f.reassigned.contains name then p.declareMutable else p.declare
    else p.assign
  modifyFrame fun f => { f with declared := insertNew name f.declared }
  line (fill template [("name", target), ("value", text)])

def commandTemplate (name : String) : Render String :=
  return (Table.get? name (← profile).commands).getD ""

/-- Arguments that have been written: one by one, and all of them. -/
def argValues (args : List String) : List (String × String) :=
  args.zipIdx.map (fun (text, i) => ("arg" ++ toString i, text)) ++ [("args", join ", " args)]

def milliseconds (seconds : Float) : Render Int :=
  match Number.roundHalfEven (seconds * 1000.0) with
  | .ok n => pure n
  | .error .infinite => throw (.halted .endlessTimeout)
  | .error .undefined => throw (.halted .undefinedTimeout)

def secondsOf : Scalar → Except Halt Float
  | .real x => .ok x
  | .flag b => .ok (if b then 1.0 else 0.0)
  | .int n =>
    match Number.ofInt? n with
    | some x => .ok x
    | none => .error .numberTooLarge
  | .text s =>
    match Number.realText? s with
    | some x => .ok x
    | none => .error (.notANumber s)
  | .absent => .error .noNumber

/-! ### Single actions -/

/-- Binds a located element: to a variable, or to its expression if it is used where it stands. -/
def bindElement (ref : ElementRef) (inline : Bool) (text : String) : Render Unit := do
  if inline then modifyFrame fun f => { f with elements := Table.put ref.id text f.elements }
  else
    bindLine ref.name text true
    let target ← ident ref.name
    modifyFrame fun f => { f with elements := Table.put ref.id target f.elements }

def locateAction (l : Lookup) : Render Unit := do
  let scope ← match l.parent with
    | some parent => elementText parent
    | none => pure (← frame).page
  let text ← locatorText l.locator scope l.provenance
  trace .locator l.provenance text (some l.locator) scope
  bindElement l.ref l.inline text

def pickAction (k : Pick) : Render Unit := do
  let source ← elementText k.source
  let index ← valueText k.index
  bindElement k.ref k.inline
    (fill (← profile).locators.nth [("source", source), ("index", index)])

def interactAction (i : Interaction) : Render Unit := do
  let p ← profile
  match Table.get? i.op p.interactions with
  | none => refuseAt i.provenance (.noInteraction p.name i.op)
  | some template =>
    let target ← elementText i.element
    let template :=
      if i.op == "sendKeys" && (← frame).cleared.contains target then
        (Table.get? "fill" p.interactions).getD template
      else template
    modifyFrame fun f =>
      { f with
        cleared :=
          if i.op == "clear" then insertNew target f.cleared else f.cleared.filter (· != target) }
    let args ← valueList fieldText i.args
    emitLine i.provenance
      (fill template ([("element", target), ("page", (← frame).page)] ++ argValues args))

/-- The script of a wait as an expression that is true in the page once the wait is over. -/
def waitPredicate (args : List Value) : String :=
  let code := match args with
    | .literal l :: _ => trim l.value.plain
    | _ => ""
  let code := if startsWith "return " code then String.ofList (code.toList.drop 7) else code
  let code := trim (trimRight (· == ';') code)
  match args with
  | _ :: .literal l :: _ => code ++ " === " ++ l.value.document.compact
  | _ => code

def waitAction (w : Wait) : Render Unit := do
  let p ← profile
  match Table.get? w.condition p.waits with
  | none => refuseAt w.provenance (.noCondition p.name w.condition)
  | some template =>
    let args ← valueList fieldText w.args
    let millis ← milliseconds w.seconds
    let target ← match w.target with
      | some ref => pure [("element", ← elementText ref)]
      | none => pure []
    let predicate :=
      if w.condition == "scriptReturns" then
        let text := waitPredicate w.args
        [("predicate", text), ("predicate_str", quote text p.phrases.quote)]
      else []
    let text := fill template
      ([("page", (← frame).page), ("timeout_ms", toString millis),
        ("timeout", Scalar.realNumber w.seconds)] ++ argValues args ++ target ++ predicate)
    line text
    trace .wait w.provenance text
    trace .action w.provenance text

def assertAction (a : Assertion) : Render Unit := do
  let p ← profile
  match Table.get? a.kind p.asserts with
  | none => refuseAt a.provenance (.noAssertion p.name a.kind)
  | some template =>
    let operand (text : String) := if p.phrases.groupAssertOperands then group text else text
    let actual ← valueText a.actual
    let expected ← match a.expected with
      | some v => pure (operand (← valueText v))
      | none => pure ""
    let messagePart ← match a.message with
      | some v => pure (fill p.phrases.messagePart [("message", ← valueText v)])
      | none => pure ""
    emitLine a.provenance (fill template
      [("actual", operand actual), ("expected", expected), ("message_part", messagePart)])

def scriptAction (s : ScriptRun) : Render Unit := do
  let p ← profile
  let parts ← scriptParts s.code (← scriptArgs fieldText s.args)
  if s.bind.isEmpty then
    let text := fill p.script.statement parts
    line text
    trace .action s.provenance text
  else
    let text := fill p.script.expression parts
    bindLine s.bind text s.declare
    trace .action s.provenance text

/-- A command to the browser. A command with an empty template has no counterpart and is dropped. -/
def commandAction (name : String) (args : List Value) (provenance : Provenance) : Render Unit := do
  let p ← profile
  match Table.get? name p.commands with
  | none => refuseAt provenance (.noCommand p.name name)
  | some template =>
    if template.isEmpty then
      note ("command:" ++ name)
        ("'" ++ name ++ "' has no " ++ p.displayName ++ " equivalent and was dropped")
        (some provenance.position)
    else
      let millis ← match args with
        | .literal l :: _ => do
          let seconds ← liftHalt (secondsOf l.value)
          pure (toString (← milliseconds seconds))
        | _ => pure ""
      emitLine provenance (fill template [("page", (← frame).page), ("millis", millis)])

def callAction (d : Delegation) : Render Unit := do
  let text ← valueText (.call d.call)
  if d.bind.isEmpty then
    line (fill (← phrases).expressionStatement [("expression", text)])
  else bindLine d.bind text d.declare

/-- The question whether an element can be seen, if that is all a probe asks: it returns the answer,
and false if the element is not there. -/
def presenceCheck : List Action → List Action → Option Value
  | [.ret (some (.elementQuery ref "visible" arg)) _], [.ret (some (.literal l)) _] =>
    if l.value = .flag false then some (.elementQuery ref "visible" arg) else none
  | _, _ => none

/-- Whether a field that is known to be empty is still so after an action. -/
def keepsCleared : Action → Bool
  | .interact _ | .wait _ | .assert _ | .pause .. | .ret .. => true
  | _ => false

/-! ### Bodies -/

mutual

/-- One action, where `splice` splices the method of a call statement. -/
def actionLines (splice : Delegation → Render Unit) : Action → Render Unit
  | .navigate url p => do
    let address ← valueText url
    emitLine p (fill (← commandTemplate "navigate") [("page", (← frame).page), ("url", address)])
  | .locate l => locateAction l
  | .pick k => pickAction k
  | .interact i => interactAction i
  | .wait w => waitAction w
  | .assert a => assertAction a
  | .script s => scriptAction s
  | .delegate d => do if (← read).strategy = .inline then splice d else callAction d
  | .bind b => do bindLine b.name (← valueText b.value) b.declare
  | .branch condition thenBody elseBody _ => do
    let test ← valueText condition
    line (fill (← phrases).ifOpen [("condition", test)])
    block (bodyLines splice thenBody)
    if !elseBody.isEmpty then
      line (← phrases).elseOpen
      block (bodyLines splice elseBody)
    closeBlock
  | .probe body fallback p => do
    match presenceCheck body fallback with
    | some presence => emitLine p (fill (← phrases).returnValue [("value", ← valueText presence)])
    | none =>
      line (← phrases).tryOpen
      block (bodyLines splice body)
      line (← phrases).catchOpen
      block (bodyLines splice fallback)
      closeBlock
  | .ret none _ => do line (← phrases).returnVoid
  | .ret (some v) _ => do line (fill (← phrases).returnValue [("value", ← valueText v)])
  | .pause millis p => do
    let text ← valueText millis
    emitLine p (fill (← commandTemplate "pause") [("page", (← frame).page), ("millis", text)])
  | .command name args p => commandAction name args p
  | .verbatim text _ _ => untranslated text

/-- Writes a body; what has no target form becomes a comment. -/
def bodyLines (splice : Delegation → Render Unit) : List Action → Render Unit
  | [] => return
  | a :: rest => do
    if a.isWait then modifySession fun s => { s with waits := s.waits + 1 }
    guarded do
      actionLines splice a
      if !keepsCleared a then modifyFrame fun f => { f with cleared := [] }
    bodyLines splice rest

end

/-! ### Splicing -/

/-- What a spliced method starts with: what stands for its parameters, and the parameters with a
variable of their own. -/
structure Arrival where
  elements : Table String String := []
  subst : Table String String := []
  bindings : List (String × String) := []

def passArgument (method : String) (param : Param) (arg : Value) (a : Arrival) :
    Render Arrival := do
  match arg with
  | .element ref =>
    let key := "param:" ++ method ++ ":" ++ param.name
    return { a with elements := Table.put key (← elementText ref) a.elements }
  | .driver => return { a with subst := Table.put param.name (← frame).page a.subst }
  | .literal _ | .variable _ =>
    return { a with subst := Table.put param.name (← valueText arg) a.subst }
  | _ => return { a with bindings := a.bindings ++ [(param.name, ← valueText arg)] }

def passArguments (method : String) : List (Param × Value) → Arrival → Render Arrival
  | [], a => return a
  | (param, arg) :: rest, a => do passArguments method rest (← passArgument method param arg a)

/-- Why a call cannot be replaced by the body of its method. -/
def spliceFault (d : Delegation) (key : MethodKey) (method : Method) (stack : List MethodKey) :
    Option SpliceFault :=
  if !d.bind.isEmpty || method.returnsValue then some .resultUsed
  else if stack.contains key then some .recursive
  else if (all method.actions).any (fun | .ret .. => true | _ => false) then some .earlyReturn
  else none

/-- The frame of a body in place of a call. -/
def spliceFrame (outer : Frame) (callee : SourceUnit) (key : MethodKey) (method : Method)
    (a : Arrival) : Frame :=
  { unit := callee, mode := .inline, page := outer.page, body := outer.body
    subst := a.subst, elements := a.elements
    declared := a.bindings.foldl (fun names b => insertNew b.1 names) []
    reassigned := mutableNames method.actions
    stack := outer.stack ++ [key] }

/-- The lines of a spliced method: its parameters, then its body. -/
def splicedLines (splice : Delegation → Render Unit) (method : Method) (a : Arrival) :
    Render Unit := do
  let p ← phrases
  a.bindings.forM fun (name, text) => do
    line (fill p.declare [("name", ← ident name), ("value", text)])
  bodyLines splice method.actions

/-- Splices the method of a call statement, where `splice?` splices its calls, if still allowed. -/
def spliceWith (splice? : Option (Delegation → Render Unit)) (d : Delegation) : Render Unit := do
  let env ← read
  let key ← resolveCall d.call (some d.provenance.position)
  let method ← liftHalt (env.model.method key)
  let callee ← liftHalt (env.model.unit key.unitName)
  let place := callee.simpleName ++ "." ++ method.name
  let outer ← frame
  match splice?, spliceFault d key method outer.stack with
  | _, some cause => refuseAt d.provenance (.noSplice place cause)
  | none, none => refuseAt d.provenance (.noSplice place .recursive)
  | some splice, none =>
    let p ← phrases
    let arrival ← passArguments method.name (method.params.zip d.call.args) {}
    comment (fill p.comment [("text", "inlined " ++ place)])
    let inner := inFrame (spliceFrame outer callee key method arrival)
      (splicedLines splice method arrival)
    if p.inlineOpen.isEmpty then inner
    else
      line p.inlineOpen
      block inner
      line p.inlineClose

/-- A call becomes the body of its method, down to a depth. -/
def spliceCall : Nat → Delegation → Render Unit
  | 0 => spliceWith none
  | n + 1 => spliceWith (some (spliceCall n))

/-- The number of methods that calls lead to. -/
def methodCount (m : Model) : Nat :=
  ((m.resolutions.map Prod.snd).foldl (fun keys k => insertNew k keys) []).length

/-- Writes a body, with calls spliced as deep as there are methods. -/
def actionsOf (body : List Action) : Render Unit := do
  bodyLines (spliceCall (methodCount (← read).model)) body

/-! ### Page objects of the setup -/

/-- The variables made by the setup that a body uses, in the order of first use. A spliced call does
not use the variable it is called on. -/
def usedObjects (strategy : DelegateStrategy) (objects : Table String String) (body : List Action) :
    List String :=
  let names := (all body).flatMap fun a => (partsOf a.values).map fun
    | .call c => if c.style = .onVariable && strategy != .inline then c.receiver else ""
    | .variable name => name
    | _ => ""
  (names.filter fun n => Table.has n objects).foldl (fun used n => insertNew n used) []

/-- Declares a page object of the setup, unless the body has a variable of that name. -/
def declareObject (bound : List String) (name : String) : Render Unit := do
  let f ← frame
  if f.params.contains name || bound.contains name || f.declared.contains name then return
  match ← pageObjectFor ((Table.get? name f.contextObjects).getD "") f.unit with
  | none => return
  | some target =>
    needClass target
    modifyFrame fun f => { f with declared := insertNew name f.declared }
    let p ← phrases
    line (fill p.declare [("name", ← ident name),
      ("value", fill p.construct [("type", target.simpleName), ("args", f.page)])])

def declareObjects (body : List Action) : Render Unit := do
  let f ← frame
  if f.mode = .test || f.mode = .function then
    (usedObjects (← read).strategy f.contextObjects body).forM
      (declareObject ((all body).map boundName))

def body (actions : List Action) : Render Unit := do
  modifyFrame fun f =>
    { f with
      reassigned := (mutableNames actions).foldl (fun names n => insertNew n names) f.reassigned }
  declareObjects actions
  actionsOf actions

end TestMigration.Rendering
