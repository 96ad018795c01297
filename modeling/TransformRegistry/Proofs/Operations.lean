import TransformRegistry.Proofs.Consistency
import TransformRegistry.Proofs.PlainUnits

/-!
# Runs of operations

A session goes on from one operation to the next, whether an operation succeeds, is refused or
crashes. Transformers and services may use the store while they are called, but have no other way
to it than its operations. So every store that a session comes to has grown from the empty one.
-/

namespace TransformRegistry

variable {I H E : Type} {U : Kind → Type} [DecidableEq I] [ClassShape U]

inductive Operation (I H E : Type) (U : Kind → Type) where
  | register (h : Handle I)
  | gatherService (s : Service I H)
  | gather (ss : Services I H)
  | seal
  | transform (u : CodeUnit U) (target : Target) (load : LoadContext E)
  | loadClass (cls : U .cls) (load : LoadContext E)

namespace Operation

def run (r : Roster I H E U) : Operation I H E U → SessionM I H Unit
  | .register h => discard (TransformRegistry.register r h)
  | .gatherService s => discard (s.gather r)
  | .gather ss => discard (ss.gather r)
  | .seal => sealStore
  | .transform u target load => discard (transformAny r u target load)
  | .loadClass cls load => discard (TransformRegistry.loadClass r cls load)

/-- The session after operations, one after another. -/
def runAll (r : Roster I H E U) (ops : List (Operation I H E U)) (s : Session I H) :
    Session I H :=
  ops.foldl (fun s op => (op.run r).after s) s

/-- The services of the operation obey the rule while they enumerate. -/
def EnumeratesUnder (rule : StoreRule I) : Operation I H E U → Prop
  | .gatherService s => s.EnumeratesUnder rule
  | .gather ss => ∀ s ∈ ss.list, s.EnumeratesUnder rule
  | _ => True

/-- The services of the operation have the property while they enumerate. -/
def EnumeratesWith (K : {α : Type} → SessionM I H α → Prop) : Operation I H E U → Prop
  | .gatherService s => K s.transformers
  | .gather ss => ∀ s ∈ ss.list, K s.transformers
  | _ => True

omit [DecidableEq I] [ClassShape U] in
theorem EnumeratesUnder.heritable {rule : StoreRule I} {op : Operation I H E U}
    (hop : op.EnumeratesUnder rule) : op.EnumeratesWith (SessionM.Obeys rule) := by
  cases op <;> exact hop

end Operation

open SessionM Operation

theorem Heritable.operation {K : {α : Type} → SessionM I H α → Prop} (hK : Heritable K)
    (records : RecordsWith K) (changes : ChangesWith K) {r : Roster I H E U}
    (applies : r.AppliesWith K) (declares : r.DeclaresWith K) {op : Operation I H E U}
    (hop : op.EnumeratesWith K) : K (op.run r) := by
  rcases op with h | s | ss | _ | ⟨u, target, load⟩ | ⟨cls, load⟩
  · exact hK.map _ (hK.register changes declares)
  · exact hK.map _ (hK.gatherService changes declares hop)
  · exact hK.map _ (hK.gatherAll changes declares hop)
  · exact changes.close
  · exact hK.map _ (hK.transformAny records applies)
  · exact hK.map _ (hK.loadClass records applies)

theorem run_obeys {rule : StoreRule I} (changes : rule.AllowsChanges) {r : Roster I H E U}
    (hr : r.Under rule) {op : Operation I H E U} (hop : op.EnumeratesUnder rule) :
    (op.run r).Obeys rule :=
  obeys_heritable.operation obeys_records changes.heritable hr.applies.heritable
    hr.declares.heritable hop.heritable

theorem runAll_allows {rule : StoreRule I} (changes : rule.AllowsChanges) {r : Roster I H E U}
    (hr : r.Under rule) {ops : List (Operation I H E U)}
    (hops : ∀ op ∈ ops, op.EnumeratesUnder rule) (s : Session I H) :
    rule.allows s.store (runAll r ops s).store := by
  induction ops generalizing s with
  | nil => exact rule.refl _
  | cons op rest ih =>
    have first := run_obeys changes hr (hops op List.mem_cons_self) s
    have next := ih (fun o ho => hops o (List.mem_cons_of_mem _ ho)) ((op.run r).after s)
    exact rule.trans first next

theorem runAll_reachable {r : Roster I H E U} (hr : r.Under growth)
    {ops : List (Operation I H E U)} (hops : ∀ op ∈ ops, op.EnumeratesUnder growth)
    {s : Session I H} {settings : Settings} (start : s.store = .empty settings) :
    (runAll r ops s).store.Reachable := by
  have began : s.store.Reachable := by
    rw [start]
    exact Store.reachable_empty settings
  exact began.grow (runAll_allows growth_allowsChanges hr hops s)

/-- After any operations on a store that began empty, the indexes and the two sets agree, and so do
the answers that are read off them. -/
theorem runAll_consistent (r : Roster I H E U) (hr : r.Under growth)
    (ops : List (Operation I H E U)) (hops : ∀ op ∈ ops, op.EnumeratesUnder growth)
    (s : Session I H) (settings : Settings) (start : s.store = .empty settings) :
    let snapshot := (runAll r ops s).store.snapshot
    snapshot.Consistent ∧
      (∀ k, (snapshot.indexes.get k).isSome = true ↔ (snapshot.indexOf k).targets ≠ []) ∧
      (∀ t, snapshot.isTargeted t = true ↔ snapshot.handlesFor t ≠ []) ∧
      (∀ owner, snapshot.needsClass owner = true ↔
        ∃ t, snapshot.isTargeted t = true ∧ t.owner.text = owner.map dotted) ∧
      snapshot.kinds = (Kind.all.filter fun k => snapshot.targets.any (·.kind = k)) ∧
      ∀ k t, t.kind ≠ k → snapshot.sequence k t = [] := by
  intro snapshot
  have consistent : snapshot.Consistent := (runAll_reachable hr hops start).consistent
  refine ⟨consistent, fun _ => consistent.present_iff, fun _ => consistent.isTargeted_iff_handlesFor,
    fun _ => consistent.needsClass_iff, consistent.kinds_eq,
    fun _ _ h => consistent.sequence_of_kind_ne h⟩

def oneClass : Roster Nat Unit Unit PlainUnit := .marking fun _ => return [.ofClass "C"]

/-- Before a field transformer declares its targets, it registers a class transformer, and before a
method transformer does, it seals the store. -/
def meddling : Roster Nat Unit Unit PlainUnit :=
  .marking fun h => do
    match h.kind with
    | .cls => return [.ofClass "B"]
    | .field =>
      let _ ← register oneClass ⟨.cls, 7⟩
      return [.ofField "B" "f" "I", .ofField "B" "f" "I"]
    | .method =>
      sealStore
      return [.ofMethod "B" "m" "()V"]

theorem meddling_under : meddling.Under growth := by
  refine Roster.marking_under fun h => ?_
  have plain : oneClass.Under growth := Roster.marking_under fun _ => obeys_pure _
  rcases h with ⟨_ | _ | _, i⟩
  · exact obeys_pure _
  · exact obeys_bind (sealStore_obeys growth_allowsChanges) fun _ => obeys_pure _
  · exact obeys_bind (register_obeys growth_allowsChanges plain.declares) fun _ => obeys_pure _

/-- What was registered on the way counts, and what was refused does not. -/
theorem runAll_consistent_meddling :
    let both : Service Nat Unit := ⟨"both", return .ok [⟨.cls, 1⟩, ⟨.field, 2⟩]⟩
    let ops : List (Operation Nat Unit Unit PlainUnit) :=
      [.gatherService both, .register ⟨.method, 3⟩, .register ⟨.cls, 4⟩, .gather (.ofList [both])]
    let snapshot := (runAll meddling ops { store := .empty, host := () }).store.snapshot
    snapshot.Consistent ∧
      snapshot.targets = [.ofField "B" "f" "I", .ofClass "B", .ofClass "C"] := by
  intro both ops snapshot
  refine ⟨(runAll_consistent meddling meddling_under ops ?_ _ _ rfl).1, by decide +kernel⟩
  intro op hop
  simp only [ops, List.mem_cons, List.not_mem_nil, or_false] at hop
  rcases hop with rfl | rfl | rfl | rfl
  · exact obeys_pure _
  · trivial
  · trivial
  · intro s hs
    rw [List.mem_singleton.1 hs]
    exact obeys_pure _

end TransformRegistry
