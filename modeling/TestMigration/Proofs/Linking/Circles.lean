import Mathlib.Data.List.Chain
import Mathlib.Data.List.Perm.Subperm
import Mathlib.Logic.Relation
import TestMigration.Linking.Link
import TestMigration.Proofs.Tables
/-!
# The search for circles is exact

`cyclesOf` goes through the graph of calls depth first and reports a circle whenever a call leads
back to the path it is on. It reports one exactly if the graph has a circle, and only closed walks.

*What is reported is a circle.* The path is a walk of the graph, so its part from the method called
again, followed by that method, is a closed walk.

*No circle is missed.* As long as nothing has been reported, every call of a finished method leads
to one finished before. The list of these methods is therefore a topological order (`Ordered`),
without a circle, and in the end every method is in it.

The search bounds the length of paths by a number that is never used up: the methods of a path are
distinct methods of the graph.
-/

namespace TestMigration.Linking

open TestMigration.Action Relation

/-! ### Graphs and circles -/

def Edge (g : CallGraph) (a b : MethodKey) : Prop := b ∈ (Table.get? a g).getD []

/-- Some method leads back to itself. -/
def HasCircle (r : MethodKey → MethodKey → Prop) : Prop := ∃ k, TransGen r k k

/-- A walk that ends where it begins and takes at least one step. -/
structure ClosedWalk (r : MethodKey → MethodKey → Prop) (keys : List MethodKey) : Prop where
  long : 2 ≤ keys.length
  returns : keys.head? = keys.getLast?
  walk : keys.IsChain r

variable {keys : List MethodKey}

theorem ClosedWalk.hasCircle {r : MethodKey → MethodKey → Prop} (h : ClosedWalk r keys) :
    HasCircle r := by
  obtain ⟨hlong, hreturns, hwalk⟩ := h
  match keys, hlong with
  | a :: b :: rest, _ =>
    have hlast : (b :: rest).getLast (List.cons_ne_nil _ _) = a := by
      simpa [List.getLast?_eq_some_getLast, eq_comm] using hreturns
    have hfirst : r a b := by simpa using (List.isChain_cons_cons.mp hwalk).1
    have hrest : ReflTransGen r b a :=
      List.relationReflTransGen_of_exists_isChain_cons rest
        (List.isChain_cons_cons.mp hwalk).2 hlast
    exact ⟨a, TransGen.head' hfirst hrest⟩

theorem Edge.mem_keys {g : CallGraph} {a b : MethodKey} (h : Edge g a b) : a ∈ Table.keys g := by
  rw [Edge] at h
  cases hget : Table.get? a g with
  | none => simp [hget] at h
  | some => exact Table.mem_keys_of_get? hget

/-! ### The graph of a project -/

def methodKey (u : SourceUnit) (m : Method) : MethodKey :=
  { unitName := u.unitName, method := m.name, arity := m.arity }

/-- The method recorded for a key; of several the last one. -/
def Project.recorded? (p : Project) (key : MethodKey) : Option Method :=
  ((p.units.flatMap fun u => u.methods.map fun m => (methodKey u m, m)).reverse.find?
    (·.1 = key)).map Prod.snd

/-- The method recorded for the first key has a call to the second. -/
def Leads (p : Project) (resolutions : Table String MethodKey) (a b : MethodKey) : Prop :=
  ∃ m, p.recorded? a = some m ∧ ∃ c ∈ calls m.actions, Table.get? c.id resolutions = some b

theorem mem_sortKeys {k : MethodKey} : k ∈ sortKeys keys ↔ k ∈ keys := by
  rw [sortKeys, mem_sortBy, mem_distinct]

/-- **The edges of the graph are the resolved calls** of the recorded methods. -/
theorem edge_callGraph (p : Project) (resolutions : Table String MethodKey) (a b : MethodKey) :
    Edge (callGraph p resolutions) a b ↔ Leads p resolutions a b := by
  let successors (m : Method) : List MethodKey :=
    sortKeys ((calls m.actions).filterMap fun c => Table.get? c.id resolutions)
  have hpairs : (p.units.flatMap fun u => u.methods.map fun m => (methodKey u m, successors m)) =
      (p.units.flatMap fun u => u.methods.map fun m => (methodKey u m, m)).map
        (Prod.map id successors) := by
    rw [List.map_flatMap]
    simp [Function.comp_def]
  have hget : Table.get? a (callGraph p resolutions) = (p.recorded? a).map successors := by
    have hgraph : callGraph p resolutions = Table.ofPairs
        (p.units.flatMap fun u => u.methods.map fun m => (methodKey u m, successors m)) := rfl
    rw [hgraph, Table.get?_ofPairs, hpairs, ← List.map_reverse, List.find?_map, Project.recorded?]
    simp [Function.comp_def]
  have hmem : ∀ m, b ∈ successors m ↔
      ∃ c ∈ calls m.actions, Table.get? c.id resolutions = some b := fun m => by
    rw [mem_sortKeys, List.mem_filterMap]
  rw [Edge, hget, Leads]
  cases hm : p.recorded? a with
  | none => simp
  | some m => simpa using hmem m

/-! ### One step of the search -/

def Search.follow (g : CallGraph) (n : Nat) (path : List MethodKey) (s : Search)
    (next : MethodKey) : Search :=
  if path.contains next then s.addCycle (path.dropWhile (· != next) ++ [next])
  else if s.done.contains next then s
  else visit g n path next s

def Search.followAll (g : CallGraph) (n : Nat) (path : List MethodKey) (s : Search)
    (nexts : List MethodKey) : Search := nexts.foldl (Search.follow g n path) s

def Search.finish (s : Search) (node : MethodKey) : Search := { s with done := s.done ++ [node] }

theorem visit_succ (g : CallGraph) (n : Nat) (path : List MethodKey) (node : MethodKey)
    (s : Search) : visit g (n + 1) path node s =
      (s.followAll g n (path ++ [node]) ((Table.get? node g).getD [])).finish node := rfl

/-- Looks at one method from which the search may start. -/
def Search.root (g : CallGraph) (s : Search) (key : MethodKey) : Search :=
  if s.done.contains key then s else visit g (g.length + 1) [] key s

theorem cyclesOf_eq (g : CallGraph) :
    cyclesOf g = ((sortBy keyLe (Table.keys g)).foldl (Search.root g) {}).cycles := rfl

/-! ### What is reported is a circle -/

section Sound

variable {g : CallGraph}
variable {s : Search} {path : List MethodKey} {next : MethodKey}

theorem mem_addCycle {c keys : List MethodKey} (h : keys ∈ (s.addCycle c).cycles) :
    keys ∈ s.cycles ∨ keys = c := by
  rw [Search.addCycle] at h
  split at h
  · exact .inl h
  · simpa using h

theorem head?_dropWhile_ne (h : next ∈ path) : (path.dropWhile (· != next)).head? = some next := by
  induction path with
  | nil => cases h
  | cons k rest ih =>
    by_cases hk : k = next
    · simp [hk]
    · have hrest : next ∈ rest := (List.mem_cons.mp h).resolve_left (Ne.symm hk)
      simpa [hk] using ih hrest

/-- **A call back to the path closes a walk.** -/
theorem closedWalk_of_path (hwalk : (path ++ [next]).IsChain (Edge g)) (hnext : next ∈ path) :
    ClosedWalk (Edge g) (path.dropWhile (· != next) ++ [next]) := by
  have hhead := head?_dropWhile_ne hnext
  have hsuffix : path.dropWhile (· != next) ++ [next] <:+ path ++ [next] := by
    obtain ⟨before, hbefore⟩ := List.dropWhile_suffix (l := path) (· != next)
    exact ⟨before, by rw [← List.append_assoc, hbefore]⟩
  cases hpart : path.dropWhile (· != next) with
  | nil => simp [hpart] at hhead
  | cons k =>
    rw [hpart] at hhead hsuffix
    have hk : k = next := by simpa using hhead
    refine ⟨by simp, ?_, hwalk.suffix hsuffix⟩
    rw [List.getLast?_concat, List.cons_append, List.head?_cons, hk]

theorem closedWalk_of_mem_follow {n : Nat}
    (hwalk : (path ++ [next]).IsChain (Edge g)) (hs : ∀ c ∈ s.cycles, ClosedWalk (Edge g) c)
    (hvisit : ∀ c ∈ (visit g n path next s).cycles, ClosedWalk (Edge g) c) :
    ∀ c ∈ (s.follow g n path next).cycles, ClosedWalk (Edge g) c := by
  intro c hc
  rw [Search.follow] at hc
  split at hc
  · rename_i hnext
    rcases mem_addCycle hc with hold | rfl
    · exact hs c hold
    · exact closedWalk_of_path hwalk (by simpa using hnext)
  · split at hc
    · exact hs c hc
    · exact hvisit c hc

/-- **A search from a walk reports only closed walks.** -/
theorem closedWalk_of_mem_visit (n : Nat) (path : List MethodKey) (node : MethodKey) (s : Search)
    (hwalk : (path ++ [node]).IsChain (Edge g)) (hs : ∀ c ∈ s.cycles, ClosedWalk (Edge g) c) :
    ∀ c ∈ (visit g n path node s).cycles, ClosedWalk (Edge g) c := by
  induction n generalizing path node s with
  | zero => exact hs
  | succ n ih =>
    refine List.foldlRecOn
      (motive := fun s : Search => ∀ c ∈ s.cycles, ClosedWalk (Edge g) c) _ _ hs ?_
    intro s hs b hb
    have hedge : Edge g node b := hb
    have hlonger : (path ++ [node] ++ [b]).IsChain (Edge g) :=
      hwalk.append (List.isChain_singleton b) (by simpa using hedge)
    exact closedWalk_of_mem_follow hlonger hs (ih _ _ s hlonger hs)

theorem closedWalk_of_mem_cyclesOf (g : CallGraph) : ∀ c ∈ cyclesOf g, ClosedWalk (Edge g) c := by
  rw [cyclesOf_eq]
  refine List.foldlRecOn (motive := fun s : Search => ∀ c ∈ s.cycles, ClosedWalk (Edge g) c) _ _
    (by simp) ?_
  intro s hs key _
  rw [Search.root]
  split
  · exact hs
  · exact closedWalk_of_mem_visit _ [] key s (List.isChain_singleton key) hs

end Sound

/-! ### No circle is missed -/

section Complete

variable {g : CallGraph}

/-- Methods in an order in which every call leads to an earlier one. -/
inductive Ordered (g : CallGraph) : List MethodKey → Prop
  | nil : Ordered g []
  | snoc {done : List MethodKey} {k : MethodKey} : Ordered g done → (∀ b, Edge g k b → b ∈ done) →
      Ordered g (done ++ [k])

variable {done path : List MethodKey} {a b : MethodKey} {n : Nat} {s : Search}

theorem Ordered.mem_of_edge (h : Ordered g done) (ha : a ∈ done) (hedge : Edge g a b) :
    b ∈ done := by
  induction h with
  | nil => cases ha
  | snoc _ hk ih =>
    rcases List.mem_append.mp ha with hold | hnew
    · exact List.mem_append_left _ (ih hold)
    · obtain rfl : a = _ := by simpa using hnew
      exact List.mem_append_left _ (hk b hedge)

theorem Ordered.mem_of_transGen (h : Ordered g done)
    (ha : a ∈ done) (hab : TransGen (Edge g) a b) : b ∈ done := by
  induction hab with
  | single hedge => exact h.mem_of_edge ha hedge
  | tail _ hedge ih => exact h.mem_of_edge ih hedge

/-- **There is no circle among ordered methods**: its first call leads to an earlier method, and the
walk stays among the earlier ones. -/
theorem Ordered.not_transGen_self (h : Ordered g done) {k : MethodKey}
    (hk : k ∈ done) : ¬TransGen (Edge g) k k := by
  induction h with
  | nil => cases hk
  | @snoc done last hdone hlast ih =>
    intro hcircle
    by_cases hold : k ∈ done
    · exact ih hold hcircle
    · obtain rfl : k = last := by simpa [hold] using hk
      obtain ⟨b, hedge, hback⟩ := TransGen.head'_iff.mp hcircle
      refine hold ?_
      rcases reflTransGen_iff_eq_or_transGen.mp hback with heq | htrans
      · exact heq ▸ hlast b hedge
      · exact hdone.mem_of_transGen (hlast b hedge) htrans

/-! The bound on the length of paths: a path of distinct methods of the graph is not longer than the
graph, so what is left of the bound is never zero. -/

/-- A path that the search can be on, with the rest of the bound. -/
structure OnPath (g : CallGraph) (n : Nat) (path : List MethodKey) : Prop where
  nodup : path.Nodup
  inside : path ⊆ Table.keys g
  bound : g.length < n + path.length

theorem OnPath.pos (h : OnPath g n path) : 0 < n := by
  have hlength : path.length ≤ (Table.keys g).length :=
    (List.Nodup.subperm h.nodup h.inside).length_le
  rw [Table.keys, List.length_map] at hlength
  have := h.bound
  omega

theorem OnPath.snoc {node : MethodKey}
    (h : OnPath g (n + 1) path) (hnode : node ∉ path) (hedge : Edge g node b) :
    OnPath g n (path ++ [node]) where
  nodup := List.nodup_append.mpr ⟨h.nodup, by simp, fun a ha b hb => by
    rintro rfl
    exact hnode (by simpa using (List.mem_singleton.mp hb) ▸ ha)⟩
  inside := by
    intro k hk
    rcases List.mem_append.mp hk with hold | hnew
    · exact h.inside hold
    · exact (List.mem_singleton.mp hnew) ▸ hedge.mem_keys
  bound := by
    have := h.bound
    rw [List.length_append, List.length_singleton]
    omega

theorem OnPath.start (g : CallGraph) : OnPath g (g.length + 1) [] where
  nodup := List.nodup_nil
  inside := List.nil_subset _
  bound := by simp

/-- The search never takes back what it has found. -/
structure Extends (s t : Search) : Prop where
  cycles : t.cycles = [] → s.cycles = []
  done : s.done ⊆ t.done

theorem Extends.refl (s : Search) : Extends s s := ⟨id, fun _ h => h⟩

theorem Extends.trans {t u : Search} (h : Extends s t) (h' : Extends t u) : Extends s u :=
  ⟨fun hu => h.cycles (h'.cycles hu), fun _ hk => h'.done (h.done hk)⟩

theorem addCycle_ne_nil (s : Search) (c : List MethodKey) : (s.addCycle c).cycles ≠ [] := by
  rw [Search.addCycle]
  split
  · rename_i hknown
    intro hnil
    simp [hnil] at hknown
  · simp

theorem extends_follow {next : MethodKey}
    (hvisit : Extends s (visit g n path next s)) : Extends s (s.follow g n path next) := by
  rw [Search.follow]
  split
  · refine ⟨fun hnil => absurd hnil (addCycle_ne_nil s _), fun k hk => ?_⟩
    rw [Search.addCycle]
    split <;> exact hk
  · split
    · exact Extends.refl s
    · exact hvisit

theorem extends_foldl {step : Search → MethodKey → Search}
    (hstep : ∀ s b, Extends s (step s b)) (nexts : List MethodKey) (s : Search) :
    Extends s (nexts.foldl step s) := by
  induction nexts generalizing s with
  | nil => exact Extends.refl s
  | cons b _ ih => exact (hstep s b).trans (ih _)

theorem extends_visit (n : Nat) (path : List MethodKey) (node : MethodKey) (s : Search) :
    Extends s (visit g n path node s) := by
  induction n generalizing path node s with
  | zero => exact Extends.refl s
  | succ n ih =>
    have hall : Extends s (s.followAll g n (path ++ [node]) ((Table.get? node g).getD [])) :=
      extends_foldl (fun s b => extends_follow (ih _ b s)) _ s
    exact hall.trans ⟨id, List.subset_append_left _ _⟩

/-- What a search without reports has established about a method. -/
structure Settles (g : CallGraph) (s : Search) (nexts : List MethodKey) : Prop where
  ordered : Ordered g s.done
  all : nexts ⊆ s.done

theorem settles_foldl {step : Search → MethodKey → Search} (hlater : ∀ s b, Extends s (step s b))
    {nexts : List MethodKey} (hstep : ∀ b ∈ nexts, ∀ s, Ordered g s.done → (step s b).cycles = [] →
      Settles g (step s b) [b]) (hs : Ordered g s.done) (hnil : (nexts.foldl step s).cycles = []) :
    Settles g (nexts.foldl step s) nexts := by
  induction nexts generalizing s with
  | nil => exact ⟨hs, List.nil_subset _⟩
  | cons b rest ih =>
    rw [List.forall_mem_cons] at hstep
    have hrest : Extends (step s b) ((b :: rest).foldl step s) := extends_foldl hlater rest _
    have hfirst := hstep.1 s hs (hrest.cycles hnil)
    obtain ⟨hordered, hdone⟩ := ih hstep.2 hfirst.ordered hnil
    exact ⟨hordered, List.cons_subset.mpr ⟨hrest.done (hfirst.all (by simp)), hdone⟩⟩

/-- **A search that reports nothing settles the methods it is sent to**: all of them are done, and
what is done is ordered. -/
theorem settles_visit (n : Nat) (path : List MethodKey) (node : MethodKey) (s : Search)
    (hpath : OnPath g n path) (hnode : node ∉ path) (hs : Ordered g s.done)
    (hnil : (visit g n path node s).cycles = []) : Settles g (visit g n path node s) [node] := by
  induction n generalizing path node s with
  | zero => exact absurd hpath.pos (Nat.lt_irrefl 0)
  | succ n ih =>
    rw [visit_succ] at hnil ⊢
    have hall : Settles g (s.followAll g n (path ++ [node]) ((Table.get? node g).getD []))
        ((Table.get? node g).getD []) := by
      refine settles_foldl (fun s b => extends_follow (extends_visit _ _ b s)) ?_ hs hnil
      intro b hedge s hs hnil
      -- Nothing was reported for this call, so it does not lead back to the path.
      rw [Search.follow] at hnil ⊢
      split
      · rename_i hback
        rw [if_pos hback] at hnil
        exact absurd hnil (addCycle_ne_nil s _)
      · rename_i hback
        rw [if_neg hback] at hnil
        split
        · rename_i hdone
          exact ⟨hs, by simpa using hdone⟩
        · rename_i hdone
          rw [if_neg hdone] at hnil
          exact ih _ b s (hpath.snoc hnode hedge) (by simpa using hback) hs hnil
    exact ⟨hall.ordered.snoc fun b hb => hall.all hb, by simp [Search.finish]⟩

theorem settles_roots (keys : List MethodKey) (s : Search) (hs : Ordered g s.done)
    (hnil : (keys.foldl (Search.root g) s).cycles = []) :
    Settles g (keys.foldl (Search.root g) s) keys := by
  have hroot : ∀ s key, Extends s (Search.root g s key) := by
    intro s key
    rw [Search.root]
    split
    · exact Extends.refl s
    · exact extends_visit _ _ _ s
  refine settles_foldl hroot (fun key _ s hs hnil => ?_) hs hnil
  rw [Search.root] at hnil ⊢
  split
  · rename_i hdone
    exact ⟨hs, by simpa using hdone⟩
  · rename_i hdone
    rw [if_neg hdone] at hnil
    exact settles_visit _ [] key s (OnPath.start g) (by simp) hs hnil

/-- **A search that reports nothing has seen no circle.** -/
theorem not_hasCircle_of_cyclesOf_eq_nil (h : cyclesOf g = []) : ¬HasCircle (Edge g) := by
  rintro ⟨k, hcircle⟩
  obtain ⟨hordered, hdone⟩ := settles_roots _ _ Ordered.nil h
  obtain ⟨b, hedge, -⟩ := TransGen.head'_iff.mp hcircle
  exact hordered.not_transGen_self (hdone (mem_sortBy.mpr hedge.mem_keys)) hcircle

theorem cyclesOf_eq_nil_iff (g : CallGraph) : cyclesOf g = [] ↔ ¬HasCircle (Edge g) := by
  refine ⟨not_hasCircle_of_cyclesOf_eq_nil, fun h => ?_⟩
  cases hcycles : cyclesOf g with
  | nil => rfl
  | cons c => exact absurd (closedWalk_of_mem_cyclesOf g c (by simp [hcycles])).hasCircle h

end Complete

end TestMigration.Linking
