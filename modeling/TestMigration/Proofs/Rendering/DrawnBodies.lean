import TestMigration.Proofs.Rendering.Outline
/-!
# Bodies are written as outlined

The proof follows the recursion of rendering. A step without a body of its own depends on the frame
alone, so what it gives can be read off the outline (`draws_step`); a fork writes its two sides into
blocks (`draws_forkLines`); and a spliced call writes the lines of its method, by induction over the
number of splices it may lead through (`traces_spliceCall`). A whole body first declares the page
objects of the setup (`draws_body`), and the bodies of a hook follow each other
(`draws_hookBodies`).
-/

namespace TestMigration.Rendering

open TestMigration.Action Text Profile

variable {α : Type} {a : Action}

/-- A step has left the frame and written the lines that an outline says. -/
structure Draws (env : Env) (o : List Piece × Frame) (s s' : State) : Prop where
  frame : s'.frame = o.2
  drawn : Drawn env.profile.phrases o.1 s.code s'.code

section Steps

variable {env : Env} {s s' : State}
variable {x : Render String}

theorem Framed.draws {x : Render α} [Framed x] {r : Except Stop α}
    (hrun : x.run env s = (r, s')) : Draws env ([], frameIn env s.frame x) s s' := by
  obtain ⟨-, hframe, lines, n, hcode⟩ := Framed.eval hrun
  exact ⟨hframe, hcode ▸ drawn_more _ _ lines n⟩

/-- A step that leaves the frame alone does not change what is outlined. -/
theorem Draws.thenPlain {x : Render α} [Framed x] [hx : Keeps Plain x] {r : Except Stop α}
    {o : List Piece × Frame} {s₁ : State} (h : Draws env o s s₁) (hrun : x.run env s₁ = (r, s')) :
    Draws env o s s' := by
  obtain ⟨-, -, lines, n, hcode⟩ := Framed.eval hrun
  exact ⟨(hx.of_run hrun).frame.trans h.frame, hcode ▸ h.drawn.thenMore lines n⟩

theorem run_bindLine (env : Env) (name text : String) (declare : Bool) (s : State) :
    (bindLine name text declare).run env s = (.ok (), { s with
        frame := { s.frame with declared := insertNew name s.frame.declared }
        code := s.code.line (fill ((s.frame.bindForm name declare).template env.profile.phrases)
          [("name", env.profile.naming.ident name), ("value", text)]) }) := by
  have htemplate : (s.frame.bindForm name declare).template env.profile.phrases =
      if declare && !s.frame.declared.contains name then
        if s.frame.reassigned.contains name then env.profile.phrases.declareMutable
        else env.profile.phrases.declare
      else env.profile.phrases.assign := by
    unfold Frame.bindForm
    split
    · split <;> rfl
    · rfl
  rw [htemplate]
  rfl

/-! ### Single actions -/

/-- The actions without bodies, which splice nothing and open no block. -/
def standsAlone (env : Env) : Action → Bool
  | .branch .. => false
  | .probe body fallback _ => (presenceCheck body fallback).isSome
  | .delegate _ => env.strategy != .inline
  | _ => true

theorem framed_idle {env : Env} (ha : standsAlone env a = true) :
    Framed (bodyStep (fun _ => pure ()) a) := by
  have hlines : Framed (actionLines (fun _ => pure ()) a) := by
    cases a with
    | branch => cases ha
    | probe _ _ p =>
      obtain ⟨_, hpresence⟩ := Option.isSome_iff_exists.mp ha
      rw [actionLines, hpresence]
      infer_instance
    | ret value => cases value <;> (unfold actionLines; infer_instance)
    | _ => unfold actionLines; infer_instance
  unfold bodyStep
  infer_instance

theorem run_bodyStep_of_alone (ha : standsAlone env a = true) (splice : Splicing) (s : State) :
    (bodyStep splice a).run env s = (bodyStep (fun _ => pure ()) a).run env s := by
  cases a with
  | branch => cases ha
  | probe _ _ p =>
    obtain ⟨_, hpresence⟩ := Option.isSome_iff_exists.mp ha
    simp only [bodyStep, actionLines, hpresence]
  | delegate d =>
    have hcalled : ∀ (splice : Splicing) (t : State),
        (actionLines splice (.delegate d)).run env t = (callAction d).run env t := by
      intro splice t
      rw [actionLines, run_bind_ok run_read, if_neg (by simpa [standsAlone] using ha)]
    simp only [bodyStep_of_not_wait (rfl : isWait (.delegate d) = false), run_guarded, run_bind,
      hcalled]
  | ret value => cases value <;> simp only [bodyStep, actionLines]
  | _ => simp only [bodyStep, actionLines]

def boundLine (env : Env) (f : Frame) (a : Action) (text : String) : VariableLine :=
  { form := f.bindForm a.boundName a.declares, name := a.boundName, own := true
    target := env.profile.naming.ident a.boundName, text }

theorem outlineStep_of_none {f : Frame} (h : boundText a = none) :
    outlineStep env f a = ([], frameIn env f (bodyStep (fun _ => pure ()) a)) := by
  simp [outlineStep, variableLine?, h]

theorem outlineStep_of_some {f : Frame} {r : Except Stop String}
    (h : boundText a = some x) (heval : evalIn env f x = r) :
    outlineStep env f a = ((r.toOption.map fun text => .variable (boundLine env f a text)).toList,
      frameIn env f (bodyStep (fun _ => pure ()) a)) := by
  rw [outlineStep, variableLine?, h, Option.bind_some, heval]
  cases r <;> rfl

theorem draws_bound (a : Action) (x : Render String) (rest : String → Render Unit)
    (ha : standsAlone env a = true) (hbound : boundText a = some x) [hx : Framed x]
    [hsilent : Keeps Silent x] (hwait : a.isWait = false) (hkeeps : keepsCleared a = false)
    (hlines : ∀ t, (actionLines (fun _ => pure ()) a).run env t = (x >>= rest).run env t)
    (hrest : ∀ text t, ∃ t', (rest text).run env t = (.ok (), t') ∧
      t'.code = t.code.line ((boundLine env t.frame a text).statement env.profile.phrases))
    (hrun : (bodyStep (fun _ => pure ()) a).run env s = (.ok (), s')) :
    Draws env (outlineStep env s.frame a) s s' := by
  have hframed := framed_idle ha
  have hframe := (Framed.eval hrun).2.1
  rw [bodyStep_of_not_wait hwait, run_guarded, run_bind, hlines] at hrun
  rcases htext : x.run env s with ⟨stop | text, s₁⟩
  · -- The value has no target form: nothing is bound, and a comment is written.
    rw [run_bind_error htext] at hrun
    rw [outlineStep_of_some hbound (Framed.eval htext).1]
    cases stop with
    | untranslatable =>
      obtain ⟨-, -, lines, n, hmore⟩ := Framed.eval hrun
      refine ⟨hframe, ?_⟩
      rw [hmore, (hsilent.of_run htext).code]
      exact drawn_more _ _ lines n
    | refused => cases hrun
    | halted => cases hrun
  · rw [run_bind_ok htext] at hrun
    rw [outlineStep_of_some hbound (Framed.eval htext).1]
    obtain ⟨s₂, hwritten, hcode⟩ := hrest text s₁
    rw [hwritten, hkeeps] at hrun
    cases hrun
    refine ⟨hframe, ?_⟩
    rw [(hsilent.of_run htext).frame, (hsilent.of_run htext).code] at hcode
    change Drawn _ _ _ s₂.code
    rw [hcode]
    exact drawn_variable _ _ _

theorem draws_unbound (ha : standsAlone env a = true) (hnone : boundText a = none)
    (hrun : (bodyStep (fun _ => pure ()) a).run env s = (.ok (), s')) :
    Draws env (outlineStep env s.frame a) s s' := by
  have hframed := framed_idle ha
  rw [outlineStep_of_none hnone]
  exact Framed.draws hrun

theorem exists_run_bindLine (env : Env) (a : Action) {name : String} {declare : Bool}
    (hname : a.boundName = name) (hdeclares : a.declares = declare) (text : String) (t : State) :
    ∃ t', (bindLine name text declare).run env t = (.ok (), t') ∧
      t'.code = t.code.line ((boundLine env t.frame a text).statement env.profile.phrases) := by
  refine ⟨_, run_bindLine env name text declare t, ?_⟩
  rw [VariableLine.statement, boundLine, hname, hdeclares]

theorem exists_run_bindElement (env : Env) (ref : ElementRef) (text : String) (t : State) :
    ∃ t', (bindElement ref false text).run env t = (.ok (), t') ∧
      t'.code = t.code.line (fill ((t.frame.bindForm ref.name true).template env.profile.phrases)
        [("name", env.profile.naming.ident ref.name), ("value", text)]) := by
  have hbind : bindElement ref false text = (bindLine ref.name text true >>= fun _ =>
      ident ref.name >>= fun target =>
        modifyFrame fun f => { f with elements := Table.put ref.id target f.elements }) := rfl
  have hwritten := run_bindLine env ref.name text true t
  generalize hcode : t.code.line _ = code at hwritten ⊢
  rw [hbind, run_bind_ok hwritten]
  exact ⟨_, rfl, rfl⟩

/-- A lookup binds its element to a variable, unless it is written where it is used. -/
theorem draws_located (a : Action) (x : Render String) (ref : ElementRef) (inline : Bool)
    (ha : standsAlone env a = true)
    (hbound : boundText a = if inline then none else some x) [Framed x]
    [Keeps Silent x] (hwait : a.isWait = false) (hkeeps : keepsCleared a = false)
    (hname : a.boundName = if inline then "" else ref.name) (hdeclares : a.declares = true)
    (hlines : actionLines (fun _ => pure ()) a = (x >>= bindElement ref inline))
    (hrun : (bodyStep (fun _ => pure ()) a).run env s = (.ok (), s')) :
    Draws env (outlineStep env s.frame a) s s' := by
  cases inline with
  | true => exact draws_unbound ha hbound hrun
  | false =>
    refine draws_bound a x (bindElement ref false) ha hbound hwait hkeeps (fun t => by rw [hlines])
      (fun text t => ?_) hrun
    rw [boundLine, hname, hdeclares]
    exact exists_run_bindElement env ref text t

instance {K : Kind} [Kind.Fields env K] (c : ScriptRun) : Is env K (scripted c) := by
  unfold scripted; infer_instance

theorem scriptAction_eq (c : ScriptRun) (hbind : c.bind.isEmpty = false) :
    scriptAction c = (scripted c >>= fun text => do
      bindLine c.bind text c.declare
      trace .action c.provenance text) := by
  simp [scriptAction, scripted, hbind]

theorem exists_run_scripted (env : Env) (c : ScriptRun) (text : String) (t : State) : ∃ t', (do
        bindLine c.bind text c.declare
        trace .action c.provenance text : Render Unit).run env t = (.ok (), t') ∧
      t'.code = t.code.line ((boundLine env t.frame (.script c) text).statement
        env.profile.phrases) := by
  obtain ⟨t₁, hwritten, hcode⟩ := exists_run_bindLine env (.script c) (rfl : _ = c.bind)
    (rfl : _ = c.declare) text t
  rw [run_bind_ok hwritten]
  exact ⟨{ t₁ with session := _ }, rfl, hcode⟩

theorem draws_script (c : ScriptRun)
    (hrun : (bodyStep (fun _ => pure ()) (.script c)).run env s = (.ok (), s')) :
    Draws env (outlineStep env s.frame (.script c)) s s' := by
  cases hempty : c.bind.isEmpty with
  | true => exact draws_unbound rfl (by simp [boundText, hempty]) hrun
  | false =>
    refine draws_bound (.script c) (scripted c) _ rfl (by simp [boundText, hempty]) rfl rfl
      (fun t => ?_) (exists_run_scripted env c) hrun
    rw [actionLines, scriptAction_eq c hempty]

theorem draws_call (d : Delegation) (hstrategy : env.strategy ≠ .inline)
    (hrun : (bodyStep (fun _ => pure ()) (.delegate d)).run env s = (.ok (), s')) :
    Draws env (outlineStep env s.frame (.delegate d)) s s' := by
  have halone : standsAlone env (.delegate d) = true := by simpa [standsAlone] using hstrategy
  cases hempty : d.bind.isEmpty with
  | true => exact draws_unbound halone (by simp [boundText, hempty]) hrun
  | false =>
    refine draws_bound (.delegate d) (valueText (.call d.call))
      (fun text => bindLine d.bind text d.declare) halone (by simp [boundText, hempty]) rfl rfl
      (fun t => ?_) (fun text t => ?_) hrun
    · rw [actionLines, run_bind_ok run_read, if_neg hstrategy]
      simp [callAction, hempty]
    · exact exists_run_bindLine env (.delegate d) (rfl : _ = d.bind) (rfl : _ = d.declare) text t

theorem draws_bind (b : Binding)
    (hrun : (bodyStep (fun _ => pure ()) (.bind b)).run env s = (.ok (), s')) :
    Draws env (outlineStep env s.frame (.bind b)) s s' := by
  refine draws_bound (.bind b) (valueText b.value)
    (fun text => bindLine b.name text b.declare) rfl rfl
    rfl rfl (fun t => by rw [actionLines]) (fun text t => ?_) hrun
  exact exists_run_bindLine env (.bind b) (rfl : _ = b.name) (rfl : _ = b.declare) text t

/-- **A single action is written as outlined.** -/
theorem draws_step (ha : standsAlone env a = true) (splice : Splicing)
    (hrun : (bodyStep splice a).run env s = (.ok (), s')) :
    Draws env (outlineStep env s.frame a) s s' := by
  rw [run_bodyStep_of_alone ha] at hrun
  cases a with
  | locate l =>
    exact draws_located _ (lookedUp l) l.ref l.inline ha rfl rfl rfl rfl rfl
      (by rw [actionLines, locateAction_eq]) hrun
  | pick k =>
    exact draws_located _ (picked k) k.ref k.inline ha rfl rfl rfl rfl rfl
      (by rw [actionLines, pickAction_eq]) hrun
  | script c => exact draws_script c hrun
  | delegate d => exact draws_call d (by simpa [standsAlone] using ha) hrun
  | bind b => exact draws_bind b hrun
  | _ => exact draws_unbound ha rfl hrun

end Steps

/-! ### Blocks -/

section Blocks

variable {env : Env} {splice : Splicing}
variable {x : Render Unit} {s s' s₁ : State} {o : List Piece × Frame} {p : Provenance}
variable {planned : Planning}

/-- A block is one level deeper, with at most one line of its own. -/
theorem exists_code_of_run_block (h : (block x).run env s = (.ok (), s')) :
    ∃ s₁ lines n, x.run env { s with code := s.code.deeper } = (.ok (), s₁) ∧
      s'.frame = s₁.frame ∧ s'.code = (s₁.code.more lines n).shallower := by
  obtain ⟨s₁, _, hx, hrest, rfl⟩ := exists_filler_of_run_block h
  have hstatements : statements.run env s₁ = (.ok s₁.code.statements, s₁) := rfl
  rw [run_bind_ok run_phrases, run_bind_ok hstatements] at hrest
  split at hrest
  · cases hrest
    exact ⟨s₁, _, _, hx, rfl, congrArg Code.shallower (Code.line_eq_more ..)⟩
  · cases hrest
    exact ⟨_, [], 0, hx, rfl, by rw [Code.more_nil]⟩

theorem draws_block {opening : String}
    (hx : ∀ {t t'}, t.frame = s.frame → x.run env t = (.ok (), t') → Draws env o t t')
    (hopening : (line opening).run env s = (.ok (), s₁))
    (hblock : (block x).run env s₁ = (.ok (), s')) :
    Draws env ([.block opening o.1], o.2) s s' := by
  cases hopening
  obtain ⟨_, lines, n, hrun, hframe, hcode⟩ := exists_code_of_run_block hblock
  have hdraws := hx (t := { s with code := (s.code.line opening).deeper }) rfl hrun
  refine ⟨hframe.trans hdraws.frame, ?_⟩
  rw [hcode]
  exact (hdraws.drawn.thenMore lines n).block

/-- A fork writes its sides into blocks; only an empty second one is left out. -/
theorem draws_forkLines {opening turn : Phrases → String} {both : Bool} {first second : List Action}
    {o' : List Piece × Frame}
    (hfirst : ∀ {t t'}, t.frame = s.frame → (bodyLines splice first).run env t = (.ok (), t') →
      Draws env o t t')
    (hsecond : ∀ {t t'}, t.frame = o.2 → (bodyLines splice second).run env t = (.ok (), t') →
      Draws env o' t t')
    (hrun : (forkLines splice opening turn both first second).run env s = (.ok (), s')) :
    Draws env ((outlineFork (opening env.profile.phrases) (turn env.profile.phrases)
      (both || !second.isEmpty) o o').1, o'.2) s s' := by
  obtain ⟨_, s₂, hopening, hblock, hrest⟩ := exists_of_run_forkLines hrun
  have hleft := draws_block hfirst hopening hblock
  rcases hrest with ⟨hskipped, rfl, hclose⟩ | ⟨hboth, _, _, hturn, hblock, hclose⟩
  · -- The second side is left out, so the frame is the one behind the first side.
    have hnothing := hsecond (t := s₂) hleft.frame (by rfl)
    rw [hskipped]
    exact .thenPlain ⟨hnothing.frame, hleft.drawn⟩ hclose
  · have hright := draws_block (fun hframe => hsecond (hframe.trans hleft.frame)) hturn hblock
    rw [hboth]
    exact .thenPlain ⟨hright.frame, hleft.drawn.trans hright.drawn⟩ hclose

/-- A step given up before it has written anything becomes a comment. -/
theorem draws_untranslated {text : String} (hframe : s₁.frame = s.frame)
    (hcode : s₁.code = s.code) (hrun : (untranslated text).run env s₁ = (.ok (), s')) :
    Draws env ([], s.frame) s s' :=
  Draws.thenPlain ⟨hframe, hcode ▸ drawn_refl _ _⟩ hrun

theorem draws_branch {condition : Value} {thenBody elseBody : List Action}
    (hthen : ∀ {t t'}, (bodyLines splice thenBody).run env t = (.ok (), t') →
      Draws env (outline env planned t.frame thenBody) t t')
    (helse : ∀ {t t'}, (bodyLines splice elseBody).run env t = (.ok (), t') →
      Draws env (outline env planned t.frame elseBody) t t')
    (hrun : (bodyStep splice (.branch condition thenBody elseBody p)).run env s = (.ok (), s')) :
    Draws env (outlineAction env planned s.frame (.branch condition thenBody elseBody p)) s s' := by
  rw [bodyStep_of_not_wait rfl, actionLines_branch] at hrun
  rw [outlineAction]
  rcases run_guardedStep_cases (x := valueText condition) hrun
    with ⟨text, s₁, htest, hcomment⟩ | ⟨test, s₁, s₂, htest, hfork, rfl⟩
  · have hsilent := (inferInstance : Keeps Silent (valueText condition)).of_run htest
    rw [(Framed.eval htest).1]
    exact draws_untranslated hsilent.frame hsilent.code hcomment
  · have hsilent := (inferInstance : Keeps Silent (valueText condition)).of_run htest
    rw [(Framed.eval htest).1]
    have hdraws := draws_forkLines (o := outline env planned s.frame thenBody)
      (fun hframe h => hsilent.frame ▸ hframe ▸ hthen h) (fun hframe h => hframe ▸ helse h) hfork
    refine ⟨congrArg (fun f => { f with cleared := [] }) hdraws.frame, ?_⟩
    rw [← hsilent.code]
    exact hdraws.drawn

theorem draws_probe {body fallback : List Action} (hpresence : presenceCheck body fallback = none)
    (hbody : ∀ {t t'}, (bodyLines splice body).run env t = (.ok (), t') →
      Draws env (outline env planned t.frame body) t t')
    (hfallback : ∀ {t t'}, (bodyLines splice fallback).run env t = (.ok (), t') →
      Draws env (outline env planned t.frame fallback) t t')
    (hrun : (bodyStep splice (.probe body fallback p)).run env s = (.ok (), s')) :
    Draws env (outlineAction env planned s.frame (.probe body fallback p)) s s' := by
  rw [bodyStep_of_not_wait rfl, actionLines_probe p hpresence] at hrun
  rw [outlineAction, hpresence]
  rcases run_guarded_cases hrun with hok | ⟨text, s₁, hstop, -⟩
  · obtain ⟨_, s₁, hfork, hreset⟩ := exists_of_run_bind hok
    have hdraws := draws_forkLines (o := outline env planned s.frame body)
      (fun hframe h => hframe ▸ hbody h) (fun hframe h => hframe ▸ hfallback h) hfork
    cases hreset
    exact ⟨congrArg (fun f => { f with cleared := [] }) hdraws.frame, hdraws.drawn⟩
  · exact absurd rfl (Keeps.of_run (R := Translated) hstop text)

end Blocks

/-! ### Bodies -/

/-- Splicing writes what is planned and leaves the frame alone; where nothing is planned, it is
given up before it has written anything. -/
structure Traces (env : Env) (splice : Splicing)
    (planned : Planning) : Prop where
  ok {d : Delegation} {s s' : State} (hrun : (splice d).run env s = (.ok (), s')) :
    ∃ pieces, planned s.frame d = some pieces ∧ Draws env (pieces, s.frame) s s'
  lapsed {d : Delegation} {s s' : State} {text : String}
    (hrun : (splice d).run env s = (.error (.untranslatable text), s')) :
    planned s.frame d = none ∧ s'.frame = s.frame ∧ s'.code = s.code

section Bodies

variable {env : Env} {splice : Splicing}
variable {planned : Planning}
variable {s s' s₁ s₂ s₃ : State} {f : Frame} {m : Method} {d : Delegation}
  {position : Option Position}
variable {key : MethodKey} {callee : SourceUnit} {r : Except Stop Unit}

theorem draws_delegate (hsplice : Traces env splice planned) (d : Delegation)
    (hrun : (bodyStep splice (.delegate d)).run env s = (.ok (), s')) :
    Draws env (outlineAction env planned s.frame (.delegate d)) s s' := by
  rw [outlineAction]
  by_cases hinline : env.strategy = .inline
  · rw [if_pos hinline]
    have hlines : ∀ t, (actionLines splice (.delegate d)).run env t = (splice d).run env t := by
      intro t
      rw [actionLines, run_bind_ok run_read, if_pos hinline]
    rw [bodyStep_of_not_wait rfl, run_guarded, run_bind, hlines] at hrun
    rcases hspliced : (splice d).run env s with ⟨stop | _, _⟩
    · rw [hspliced] at hrun
      cases stop with
      | untranslatable =>
        obtain ⟨hnone, hframe, hcode⟩ := hsplice.lapsed hspliced
        rw [hnone]
        exact draws_untranslated hframe hcode hrun
      | refused => cases hrun
      | halted => cases hrun
    · rw [hspliced] at hrun
      obtain ⟨_, hsome, hdraws⟩ := hsplice.ok hspliced
      rw [hsome]
      cases hrun
      exact ⟨congrArg (fun f => { f with cleared := [] }) hdraws.frame, hdraws.drawn⟩
  · rw [if_neg hinline]
    exact draws_step (by simpa [standsAlone] using hinline) splice hrun

mutual

/-- **An action is written as outlined.** -/
theorem draws_bodyStep (hsplice : Traces env splice planned) (a : Action) :
    ∀ {s s' : State}, (bodyStep splice a).run env s = (.ok (), s') →
      Draws env (outlineAction env planned s.frame a) s s' := by
  cases a with
  | delegate d =>
    intro s s' hrun
    exact draws_delegate hsplice d hrun
  | branch _ thenBody elseBody p =>
    intro s s' hrun
    exact draws_branch (draws_bodyLines hsplice thenBody)
      (draws_bodyLines hsplice elseBody) hrun
  | probe body fallback p =>
    cases hpresence : presenceCheck body fallback with
    | some =>
      intro s s' hrun
      rw [outlineAction, hpresence]
      exact draws_step (by simp [standsAlone, hpresence]) splice hrun
    | none =>
      intro s s' hrun
      exact draws_probe hpresence (draws_bodyLines hsplice body)
        (draws_bodyLines hsplice fallback) hrun
  | _ =>
    intro s s' hrun
    rw [outlineAction]
    exact draws_step rfl splice hrun

/-- **Actions that follow each other are written as outlined.** -/
theorem draws_bodyLines (hsplice : Traces env splice planned) (body : List Action) :
    ∀ {s s' : State}, (bodyLines splice body).run env s = (.ok (), s') →
      Draws env (outline env planned s.frame body) s s' := by
  match body with
  | [] =>
    intro s s' hrun
    rw [bodyLines_nil] at hrun
    cases hrun
    exact ⟨by rw [outline], by rw [outline]; exact drawn_refl _ _⟩
  | a :: rest =>
    intro s s' hrun
    rw [bodyLines_cons] at hrun
    obtain ⟨_, _, hstep, hrest⟩ := exists_of_run_bind hrun
    have hfirst := draws_bodyStep hsplice a hstep
    have hlast := draws_bodyLines hsplice rest hrest
    rw [hfirst.frame] at hlast
    rw [outline]
    exact ⟨hlast.frame, hfirst.drawn.trans hlast.drawn⟩

end

/-! ### Splicing -/

theorem draws_givenLines (bindings : List (String × String))
    (hrun : (bindings.forM fun (name, text) => do
      line (fill env.profile.phrases.declare [("name", ← ident name), ("value", text)]) :
        Render Unit).run env s = (.ok (), s')) :
    Draws env (givenLines env bindings, s.frame) s s' := by
  induction bindings generalizing s with
  | nil =>
    cases hrun
    exact ⟨rfl, drawn_refl _ _⟩
  | cons b _ ih =>
    obtain ⟨_, _, hfirst, hrest⟩ := exists_of_run_bind hrun
    cases hfirst
    have hdraws := ih hrest
    exact ⟨hdraws.frame, (drawn_variable _ _ _).trans hdraws.drawn⟩

theorem draws_splicedLines (hsplice : Traces env splice planned) {a : Arrival}
    (hrun : (inFrame f (splicedLines splice m a)).run env s = (.ok (), s')) :
    Draws env (givenLines env a.bindings ++ (outline env planned f m.actions).1, s.frame) s s' := by
  obtain ⟨_, hinner, rfl⟩ := exists_of_run_inFrame hrun
  unfold splicedLines at hinner
  rw [run_bind_ok run_phrases] at hinner
  obtain ⟨_, _, hbindings, hlines⟩ := exists_of_run_bind hinner
  have hparameters := draws_givenLines a.bindings hbindings
  have hbody := draws_bodyLines hsplice m.actions hlines
  rw [hparameters.frame] at hbody
  exact ⟨rfl, hparameters.drawn.trans hbody.drawn⟩

theorem draws_splicedBlock {inner : Render Unit} {lines : List Piece} (text : String)
    (hinner : ∀ {t t'}, t.frame = s.frame → inner.run env t = (.ok (), t') →
      Draws env (lines, s.frame) t t')
    (hrun : (splicedBlock env.profile.phrases text inner).run env s = (.ok (), s')) :
    Draws env (if env.profile.phrases.inlineOpen.isEmpty then lines
      else [.block env.profile.phrases.inlineOpen lines], s.frame) s s' := by
  obtain ⟨_, s₁, hcomment, hrun⟩ := exists_of_run_bind hrun
  have hbefore : Draws env ([], s.frame) s s₁ := Draws.thenPlain ⟨rfl, drawn_refl _ _⟩ hcomment
  split at hrun
  · rename_i hempty
    rw [if_pos hempty]
    have hdraws := hinner hbefore.frame hrun
    exact ⟨hdraws.frame, hbefore.drawn.trans hdraws.drawn⟩
  · rename_i hnonempty
    rw [if_neg hnonempty]
    obtain ⟨_, _, hopening, hrun⟩ := exists_of_run_bind hrun
    obtain ⟨_, _, hblock, hclose⟩ := exists_of_run_bind hrun
    have hdraws := draws_block (fun hsame => hinner (hsame.trans hbefore.frame)) hopening hblock
    exact .thenPlain ⟨hdraws.frame, hbefore.drawn.trans hdraws.drawn⟩ hclose

/-- **A spliced call is written as outlined.** -/
theorem traces_spliceWith (hsplice : Traces env splice planned) :
    Traces env (spliceWith (some splice)) (splicedWith env planned) := by
  refine ⟨fun {d s s'} hrun => ?_, fun {d s s' text} hrun => ?_⟩
  · obtain ⟨_, key, callee, m, hsome, hkey, hmethod, hrun⟩ :=
      Allowed.exists_of_run_spliceWith (.inl rfl) hrun
    cases hsome
    obtain ⟨a, s₂, hpass, hrun⟩ := exists_of_run_bind hrun
    have hsilent := (inferInstance : Keeps Silent (passArguments _ _ _)).of_run hpass
    refine ⟨_, by simp [splicedWith, hkey, hmethod, (Framed.eval hpass).1, Except.toOption]; rfl,
      ?_⟩
    have hdraws := draws_splicedBlock _ (fun hsame hlines => by
      have hlines := draws_splicedLines hsplice hlines
      rwa [hsame] at hlines) hrun
    rw [hsilent.frame] at hdraws
    refine ⟨hdraws.frame, Drawn.body _ ?_⟩
    rw [← hsilent.code]
    exact hdraws.drawn
  · obtain ⟨key, callee, m, hkey, hmethod, hpass⟩ := exists_of_run_spliceWith hrun
    have hsilent := (inferInstance : Keeps Silent (passArguments _ _ _)).of_run hpass
    refine ⟨by simp [splicedWith, hkey, hmethod, (Framed.eval hpass).1, Except.toOption], ?_⟩
    exact ⟨hsilent.frame, hsilent.code⟩

theorem traces_spliceWith_none : Traces env (spliceWith none) fun _ _ => none where
  ok hrun := absurd hrun (Allowed.run_spliceWith_none (.inl rfl))
  lapsed hrun := absurd hrun (Allowed.run_spliceWith_none (.inr ⟨_, rfl⟩))

/-- **Spliced calls are written as outlined**, through any number of methods. -/
theorem traces_spliceCall (n : Nat) : Traces env (spliceCall n) (splicedOutline env n) := by
  induction n with
  | zero => exact traces_spliceWith_none
  | succ n ih => exact traces_spliceWith ih

end Bodies

/-! ### Whole bodies -/

section Whole

variable {env : Env}
variable {s s' : State} {actions : List Action} {f : Frame} {declared : List String}

theorem exists_draws_declareObject (actions : List Action) (name : String) (s : State) :
    ∃ s', (declareObject ((all actions).map boundName) name).run env s = (.ok (), s') ∧
      Draws env (objectLines env s.frame
        ((declaredClass? env s.frame actions name).map (name, ·)).toList,
        s.frame.declaring name (declaredClass? env s.frame actions name)) s s' := by
  obtain ⟨s', hrun, hcode, hframe⟩ := exists_of_declareObject env actions name s
  refine ⟨s', hrun, hframe, ?_⟩
  rw [hcode]
  cases declaredClass? env s.frame actions name with
  | none => exact drawn_refl _ _
  | some => exact drawn_variable _ _ s.code

/-- **The page objects of the setup are declared as outlined.** -/
theorem draws_declaredObjects (actions : List Action) {names : List String} (hnames : names.Nodup)
    (hrun : (names.forM (declareObject ((all actions).map boundName))).run env s = (.ok (), s')) :
    let objects := names.filterMap fun name =>
      (declaredClass? env s.frame actions name).map (name, ·)
    Draws env (objectLines env s.frame objects, { s.frame with
      declared := objects.foldl (fun names o => insertNew o.1 names) s.frame.declared }) s s' := by
  induction names generalizing s with
  | nil =>
    cases hrun
    exact ⟨rfl, drawn_refl _ _⟩
  | cons name rest ih =>
    obtain ⟨hnew, hrest⟩ := List.nodup_cons.mp hnames
    obtain ⟨_, hfirst, hdraws⟩ := @exists_draws_declareObject env actions name s
    change (declareObject _ name >>= fun _ => rest.forM _).run env s = _ at hrun
    rw [run_bind_ok hfirst] at hrun
    have hothers := ih hrest hrun
    rw [hdraws.frame] at hothers
    have hsame : (rest.filterMap fun other =>
          (declaredClass? env (s.frame.declaring name (declaredClass? env s.frame actions name))
            actions other).map (other, ·)) =
        rest.filterMap fun other => (declaredClass? env s.frame actions other).map (other, ·) := by
      refine List.filterMap_congr fun other hother => ?_
      have hne : other ≠ name := fun heq => hnew (heq ▸ hother)
      rw [declaredClass?_declaring _ hne]
    rw [hsame] at hothers
    have hdrawn := hdraws.drawn.trans hothers.drawn
    have hframe := hothers.frame
    rw [List.filterMap_cons]
    cases hclass : declaredClass? env s.frame actions name <;> rw [hclass] at hdrawn hframe <;>
      exact ⟨hframe, hdrawn⟩

theorem draws_declareObjects (hrun : (declareObjects actions).run env s = (.ok (), s')) :
    Draws env (objectLines env s.frame (startObjects env s.frame actions), { s.frame with
      declared := (startObjects env s.frame actions).foldl (fun names o => insertNew o.1 names)
        s.frame.declared }) s s' := by
  unfold declareObjects at hrun
  unfold startObjects
  rw [run_bind_ok run_frame] at hrun
  split at hrun
  · rename_i hmode
    rw [if_pos hmode]
    rw [run_bind_ok run_read] at hrun
    exact draws_declaredObjects actions (nodup_usedObjects ..) hrun
  · rename_i hmode
    rw [if_neg hmode]
    cases hrun
    exact ⟨rfl, drawn_refl _ _⟩

/-- **A whole body is written as outlined.** -/
theorem draws_body (actions : List Action) (hrun : (body actions).run env s = (.ok (), s')) :
    Draws env (bodyOutline env s.frame actions) s s' := by
  obtain ⟨_, hdeclare, hrun⟩ := exists_of_run_body hrun
  have hobjects := draws_declareObjects hdeclare
  have hactions := draws_bodyLines (traces_spliceCall _) actions hrun
  rw [hobjects.frame] at hactions
  exact ⟨hactions.frame, hobjects.drawn.trans hactions.drawn⟩

/-- The page objects of the setup do not depend on what was rendered before. -/
theorem result_contextObjects (s t : State) :
    (contextObjects.run env s).1 = (contextObjects.run env t).1 := by
  unfold contextObjects superclasses
  simp only [run_bind, run_read]
  cases env.model.superclassChain env.unit.unitName <;> rfl

/-- **A body rendered in a frame of its own is written as outlined.** -/
theorem draws_renderBody (hrun : (renderBody actions f).run env s = (.ok declared, s')) :
    declared = (renderedOutline env f actions).2.declared ∧
      Draws env ((renderedOutline env f actions).1, s.frame) s s' := by
  obtain ⟨objects, _, _, hobjects, hbody, rfl, rfl⟩ := exists_of_run_renderBody hrun
  have hsilent := Keeps.of_run (R := Silent) hobjects
  have hstart : renderedOutline env f actions =
      bodyOutline env { f with contextObjects := objects } actions := by
    unfold renderedOutline Frame.withObjects
    split at hobjects
    · rename_i hmode
      rw [if_pos hmode, evalIn, result_contextObjects _ s, hobjects]
      rfl
    · rename_i hmode
      rw [if_neg hmode]
      cases hobjects
      rfl
  have hdraws := draws_body actions hbody
  rw [hstart]
  refine ⟨congrArg Frame.declared hdraws.frame, hsilent.frame, ?_⟩
  rw [← hsilent.code]
  exact hdraws.drawn

/-- **The bodies of a hook are written as outlined.** -/
theorem draws_hookBodies (label : String) {methods : List (SourceUnit × Method)}
    (hrun : (hookBodies label declared methods).run env s = (.ok (), s')) :
    Draws env (hookOutline env label declared methods, s.frame) s s' := by
  induction methods generalizing declared s with
  | nil =>
    cases hrun
    exact ⟨rfl, drawn_refl _ _⟩
  | cons _ _ ih =>
    unfold hookBodies at hrun
    rw [run_bind_ok run_profile] at hrun
    obtain ⟨_, _, hfirst, hrest⟩ := exists_of_run_bind hrun
    obtain ⟨hdeclared, hdraws⟩ := draws_renderBody hfirst
    have hothers := ih hrest
    rw [hdraws.frame, hdeclared] at hothers
    exact ⟨hothers.frame, (hdraws.drawn.body []).trans hothers.drawn⟩

end Whole

end TestMigration.Rendering
