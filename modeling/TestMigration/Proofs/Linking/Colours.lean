import TestMigration.Proofs.Linking.Calls
import TestMigration.Proofs.Linking.Circles
/-!
# The search for circles in three colours

The same search can be told with colours: a method is white until it is met, grey while on the path,
and black when done. Here a grey method says that a call leads back to the path, and only then is
the path asked where the circle begins. The question could have no answer, so `paintVisit` gives an
option.

It always has one (`paintVisit_eq_some`). What carries the induction is that the grey methods are
exactly those on the path and the black ones exactly those done (`Painting.Shows`); both searches
then take the same branch at every call. With that, what linking says about circles of calls is
exact (`circles_reported_exactly`).
-/

namespace TestMigration.Linking

open TestMigration.Action Relation Text

/-! ### Colours -/

inductive Colour where
  | white
  | grey
  | black
  deriving DecidableEq

structure Painting where
  colours : Table MethodKey Colour := []
  path : List MethodKey := []
  /-- What tells the reported circles from others. -/
  reported : List (List MethodKey) := []
  cycles : List (List MethodKey) := []

namespace Painting

/-- The colour of a method; one without a colour is white. -/
def colour (t : Painting) (k : MethodKey) : Colour := (Table.get? k t.colours).getD .white

def paint (t : Painting) (k : MethodKey) (c : Colour) : Painting :=
  { t with colours := Table.put k c t.colours }

/-- Reports a circle, unless it has been reported. -/
def report (t : Painting) (c : List MethodKey) : Painting :=
  if t.reported.contains (signature c) then t
  else { t with reported := t.reported ++ [signature c], cycles := t.cycles ++ [c] }

def push (t : Painting) (k : MethodKey) : Painting :=
  { t.paint k .grey with path := t.path ++ [k] }

def pop (t : Painting) (k : MethodKey) : Painting :=
  { t.paint k .black with path := t.path.dropLast }

/-- What is done about one call, where `visit` visits a white method. A grey one is looked for on
the path. -/
def meet (visit : MethodKey → Painting → Option Painting) (t : Painting) (next : MethodKey) :
    Option Painting :=
  match t.colour next with
  | .grey =>
    match t.path.idxOf? next with
    | some i => some (t.report (t.path.drop i ++ [next]))
    | none => none
  | .white => visit next t
  | .black => some t

end Painting

/-- Follows the calls of a method, on paths of a bounded length. -/
def paintVisit (g : CallGraph) : Nat → MethodKey → Painting → Option Painting
  | 0, _, _ => none
  | n + 1, node, t => do
    let t ← ((Table.get? node g).getD []).foldlM (Painting.meet (paintVisit g n)) (t.push node)
    return t.pop node

def Painting.root (g : CallGraph) (t : Painting) (key : MethodKey) : Option Painting :=
  if t.colour key = .white then paintVisit g (g.length + 1) key t else some t

def paintAll (g : CallGraph) : Option Painting :=
  (sortBy keyLe (Table.keys g)).foldlM (Painting.root g) {}

/-! ### Both searches agree -/

/-- Grey is what is on the path, and black is what is done. -/
structure Painting.Shows (t : Painting) (path : List MethodKey) (s : Search) : Prop where
  onPath : t.path = path
  grey : ∀ k, t.colour k = .grey ↔ k ∈ path
  black : ∀ k, t.colour k = .black ↔ k ∈ s.done
  reported : t.reported = s.cycles.map signature
  cycles : t.cycles = s.cycles

section Agree

variable {g : CallGraph} {t : Painting} {path : List MethodKey} {s : Search}

theorem Painting.colour_paint (t : Painting) (k k' : MethodKey) (c : Colour) :
    (t.paint k c).colour k' = if k = k' then c else t.colour k' := by
  rw [colour, paint, Table.get?_put]
  split <;> rfl

theorem Painting.colour_push (t : Painting) (node k : MethodKey) :
    (t.push node).colour k = if node = k then .grey else t.colour k := t.colour_paint node k .grey

theorem Painting.colour_pop (t : Painting) (node k : MethodKey) :
    (t.pop node).colour k = if node = k then .black else t.colour k := t.colour_paint node k .black

theorem Painting.Shows.push (h : t.Shows path s) {node : MethodKey} (hdone : node ∉ s.done) :
    (t.push node).Shows (path ++ [node]) s where
  onPath := by rw [Painting.push, h.onPath]
  grey k := by
    rw [Painting.colour_push, List.mem_append, ← h.grey k]
    by_cases hk : node = k
    · simp [hk]
    · simp [hk, Ne.symm hk]
  black k := by
    rw [Painting.colour_push, ← h.black k]
    by_cases hk : node = k
    · subst hk
      have : t.colour node ≠ .black := fun hblack => hdone ((h.black node).mp hblack)
      simp [this]
    · simp [hk]
  reported := h.reported
  cycles := h.cycles

theorem Painting.Shows.pop {node : MethodKey} (h : t.Shows (path ++ [node]) s)
    (hnode : node ∉ path) : (t.pop node).Shows path (s.finish node) where
  onPath := by rw [Painting.pop, h.onPath, List.dropLast_concat]
  grey k := by
    rw [Painting.colour_pop]
    by_cases hk : node = k
    · subst hk
      simp [hnode]
    · rw [if_neg hk, h.grey k]
      simp [Ne.symm hk]
  black k := by
    rw [Painting.colour_pop, Search.finish, List.mem_append, ← h.black k]
    by_cases hk : node = k
    · simp [hk]
    · simp [hk, Ne.symm hk]
  reported := h.reported
  cycles := h.cycles

theorem Painting.Shows.report (h : t.Shows path s) (c : List MethodKey) :
    (t.report c).Shows path (s.addCycle c) := by
  have hknown : t.reported.contains (signature c) = s.cycles.any fun c' =>
      signature c' == signature c := by
    rw [h.reported, Bool.eq_iff_iff]
    simp
  rw [Painting.report, Search.addCycle, hknown]
  split
  · exact h
  · exact ⟨h.onPath, h.grey, h.black, by simp [h.reported], by simp [h.cycles]⟩

/-- A method stands on a path where the part that begins with it does. -/
theorem drop_idxOf? {next : MethodKey} (h : next ∈ path) :
    ∃ i, path.idxOf? next = some i ∧ path.drop i = path.dropWhile (· != next) := by
  induction path with
  | nil => cases h
  | cons k _ ih =>
    by_cases hk : k = next
    · exact ⟨0, by simp [List.idxOf?_cons, hk], by simp [hk]⟩
    · obtain ⟨i, hi, hdrop⟩ := ih ((List.mem_cons.mp h).resolve_left (Ne.symm hk))
      exact ⟨i + 1, by simp [List.idxOf?_cons, hk, hi], by simp [hk, hdrop]⟩

theorem Painting.Shows.white {k : MethodKey} (h : t.Shows path s) (hpath : k ∉ path)
    (hdone : k ∉ s.done) :
    t.colour k = .white := by
  cases hcolour : t.colour k with
  | white => rfl
  | grey => exact absurd ((h.grey k).mp hcolour) hpath
  | black => exact absurd ((h.black k).mp hcolour) hdone

/-- For one call the colours lead into the same branch as path and done methods. -/
theorem Painting.Shows.meet {n : Nat} {next : MethodKey} (h : t.Shows path s)
    (hvisit : next ∉ path → next ∉ s.done →
      ∃ t', paintVisit g n next t = some t' ∧ t'.Shows path (visit g n path next s)) :
    ∃ t', t.meet (paintVisit g n) next = some t' ∧ t'.Shows path (s.follow g n path next) := by
  rw [Painting.meet, Search.follow]
  by_cases hpath : next ∈ path
  · obtain ⟨i, hi, hdrop⟩ := drop_idxOf? hpath
    rw [(h.grey next).mpr hpath, if_pos (by simpa using hpath), h.onPath, hi, ← hdrop]
    exact ⟨_, rfl, h.report _⟩
  · rw [if_neg (by simpa using hpath)]
    by_cases hdone : next ∈ s.done
    · rw [(h.black next).mpr hdone, if_pos (by simpa using hdone)]
      exact ⟨t, rfl, h⟩
    · rw [if_neg (by simpa using hdone)]
      rw [h.white hpath hdone]
      exact hvisit hpath hdone

theorem exists_foldlM {meet : Painting → MethodKey → Option Painting}
    {follow : Search → MethodKey → Search}
    {nexts : List MethodKey} (hstep : ∀ b ∈ nexts, ∀ t s, t.Shows path s →
      ∃ t', meet t b = some t' ∧ t'.Shows path (follow s b)) (h : t.Shows path s) :
    ∃ t', nexts.foldlM meet t = some t' ∧ t'.Shows path (nexts.foldl follow s) := by
  induction nexts generalizing t s with
  | nil => exact ⟨t, rfl, h⟩
  | cons b _ ih =>
    rw [List.forall_mem_cons] at hstep
    obtain ⟨_, ht₁, h₁⟩ := hstep.1 t s h
    obtain ⟨t₂, ht₂, h₂⟩ := ih hstep.2 h₁
    exact ⟨t₂, by rw [List.foldlM_cons, ht₁]; exact ht₂, h₂⟩

/-- **The search in colours always has an answer, that of the other search.** -/
theorem paintVisit_eq_some (n : Nat) (path : List MethodKey) (node : MethodKey) (t : Painting)
    (s : Search) (hpath : OnPath g n path) (hnode : node ∉ path) (hdone : node ∉ s.done)
    (h : t.Shows path s) :
    ∃ t', paintVisit g n node t = some t' ∧ t'.Shows path (visit g n path node s) := by
  induction n generalizing path node t s with
  | zero => exact absurd hpath.pos (Nat.lt_irrefl 0)
  | succ n ih =>
    have hstep : ∀ b ∈ (Table.get? node g).getD [], ∀ t s, Painting.Shows t (path ++ [node]) s →
        ∃ t', t.meet (paintVisit g n) b = some t' ∧ t'.Shows _ (s.follow g n (path ++ [node]) b) :=
      fun b hedge t s h => h.meet fun hb hd => ih _ b t s (hpath.snoc hnode hedge) hb hd h
    obtain ⟨t', ht', h'⟩ := exists_foldlM hstep (h.push hdone)
    refine ⟨t'.pop node, ?_, ?_⟩
    · rw [paintVisit, ht']
      rfl
    · exact h'.pop hnode

theorem paintAll_eq_some (g : CallGraph) : ∃ t, paintAll g = some t ∧ t.cycles = cyclesOf g := by
  have hroot : ∀ key ∈ sortBy keyLe (Table.keys g), ∀ t s, Painting.Shows t [] s →
      ∃ t', Painting.root g t key = some t' ∧ t'.Shows [] (Search.root g s key) := by
    intro key _ t s h
    rw [Painting.root, Search.root]
    by_cases hdone : key ∈ s.done
    · rw [if_neg (by simp [(h.black key).mpr hdone]), if_pos (by simpa using hdone)]
      exact ⟨t, rfl, h⟩
    · rw [if_pos (h.white (by simp) hdone), if_neg (by simpa using hdone)]
      exact paintVisit_eq_some _ [] key t s (OnPath.start g) (by simp) hdone h
  have hstart : ({} : Painting).Shows [] {} :=
    ⟨rfl, by simp [Painting.colour], by simp [Painting.colour], rfl, rfl⟩
  obtain ⟨t, ht, h⟩ := exists_foldlM hroot hstart
  exact ⟨t, ht, h.cycles⟩

end Agree

/-! ### What linking reports -/

section Link

variable {units : List SourceUnit} {failed : List String}

theorem edge_callGraph_eq (p : Project) (resolutions : Table String MethodKey) :
    Edge (callGraph p resolutions) = Leads p resolutions := by
  funext a b
  exact propext (edge_callGraph p resolutions a b)

theorem cycleIssues_eq_nil_iff (p : Project) (resolutions : Table String MethodKey) :
    cycleIssues p resolutions = [] ↔ ¬HasCircle (Leads p resolutions) := by
  rw [cycleIssues, List.map_eq_nil_iff, cyclesOf_eq_nil_iff, edge_callGraph_eq]

theorem closedWalk_of_mem_cycleIssues {p : Project} {resolutions : Table String MethodKey}
    {i : Issue} (h : i ∈ cycleIssues p resolutions) :
    ∃ keys, i.cause = .cycle keys ∧ ClosedWalk (Leads p resolutions) keys := by
  obtain ⟨keys, hkeys, rfl⟩ := List.mem_map.mp h
  refine ⟨keys, rfl, ?_⟩
  rw [← edge_callGraph_eq]
  exact closedWalk_of_mem_cyclesOf _ keys hkeys

theorem link_eq_error_iff (h : (linksOf units failed).issues = []) {issues : List Issue} :
    link units failed = .error issues ↔
      issues = cycleIssues (Project.ofUnits units) (linksOf units failed).resolutions ∧
        issues ≠ [] := by
  rw [link_eq]
  by_cases hcycles : cycleIssues (Project.ofUnits units) (linksOf units failed).resolutions = []
  · simp [h, hcycles]
  · simp only [h, if_true, List.isEmpty_iff, hcycles, if_false, Except.error.injEq]
    constructor
    · rintro rfl
      exact ⟨rfl, hcycles⟩
    · rintro ⟨rfl, -⟩
      rfl

/-- **Circles of calls are reported exactly.** If linking has found no other issue, it fails with
the issue of a circle exactly if some method leads back to itself over the recorded calls; each
issue shows a closed walk; the search in three colours finds every grey method on its path, and
reports the same circles; and without a circle the units are linked. -/
theorem circles_reported_exactly (h : (linksOf units failed).issues = []) :
    ((∃ issues, link units failed = .error issues ∧ ∃ i ∈ issues, i.cause.kind = .cycle) ↔
        HasCircle (Leads (Project.ofUnits units) (linksOf units failed).resolutions)) ∧
      (∀ issues, link units failed = .error issues → ∀ i ∈ issues, ∃ keys,
        ClosedWalk (Leads (Project.ofUnits units) (linksOf units failed).resolutions) keys ∧
        i.diagnostic.message = "delegate cycle: " ++ join " -> " (keys.map MethodKey.text)) ∧
      (∃ t, paintAll (callGraph (Project.ofUnits units) (linksOf units failed).resolutions) =
        some t ∧
        t.cycles = cyclesOf
          (callGraph (Project.ofUnits units) (linksOf units failed).resolutions)) ∧
      (¬HasCircle (Leads (Project.ofUnits units) (linksOf units failed).resolutions) →
        link units failed = .ok (linkedModel units failed)) := by
  refine ⟨⟨?_, ?_⟩, ?_, paintAll_eq_some _, ?_⟩
  · rintro ⟨issues, hlink, i, hi, -⟩
    obtain ⟨rfl, -⟩ := (link_eq_error_iff h).mp hlink
    obtain ⟨keys, -, hwalk⟩ := closedWalk_of_mem_cycleIssues hi
    exact hwalk.hasCircle
  · intro hcircle
    have hne : cycleIssues (Project.ofUnits units) (linksOf units failed).resolutions ≠ [] :=
      fun hnil => (cycleIssues_eq_nil_iff _ _).mp hnil hcircle
    obtain ⟨i, hi⟩ := List.exists_mem_of_ne_nil _ hne
    obtain ⟨keys, hcause, -⟩ := closedWalk_of_mem_cycleIssues hi
    exact ⟨_, (link_eq_error_iff h).mpr ⟨rfl, hne⟩, i, hi, by rw [hcause]; rfl⟩
  · intro issues hlink i hi
    obtain ⟨rfl, -⟩ := (link_eq_error_iff h).mp hlink
    obtain ⟨keys, hcause, hwalk⟩ := closedWalk_of_mem_cycleIssues hi
    exact ⟨keys, hwalk, by rw [Issue.diagnostic, hcause]; rfl⟩
  · intro hacyclic
    exact link_eq_ok_iff.mpr ⟨h, (cycleIssues_eq_nil_iff _ _).mpr hacyclic, rfl⟩

end Link

/-- A method that calls one of its own unit, without parameters. -/
def forwarding (name target : String) : Method :=
  { name, params := [], returnType := "void", role := .helper, provenance := ⟨"Game.java", 1, 1⟩
    actions := [.delegate {
      call := .mk name "Game" target [] .self "" (target ++ "()")
      provenance := ⟨"Game.java", 1, 1⟩ }] }

/-- Two methods that call each other, and one that calls the first. -/
def pingPong : List SourceUnit :=
  [{ unitName := "Game.java", qualifiedName := "Game", simpleName := "Game", package := ""
     kind := .testClass, imports := [], provenance := ⟨"Game.java", 1, 9⟩
     methods := [forwarding "start" "ping", forwarding "ping" "pong", forwarding "pong" "ping"] }]

/-- Two methods that call each other are reported. -/
theorem circles_reported_exactly_pingPong : (linksOf pingPong []).issues = [] ∧
      HasCircle (Leads (Project.ofUnits pingPong) (linksOf pingPong []).resolutions) := by
  have hissues : (linksOf pingPong []).issues = [] := rfl
  refine ⟨hissues, (circles_reported_exactly hissues).1.mp ?_⟩
  exact ⟨_, rfl, _, List.mem_singleton.mpr rfl, rfl⟩

end TestMigration.Linking
