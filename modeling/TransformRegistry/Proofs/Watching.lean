import TransformRegistry.Proofs.Calls
import TransformRegistry.Proofs.Operations

/-!
# What is seen of the store

A store can be looked at between two requests, and also in the middle of one, by the transformers
and services that it calls. To speak of what they see, they are made to note the store that they
find whenever they are called, and then do what they did.
-/

namespace TransformRegistry

variable {I H E α : Type} {U : Kind → Type}

/-! ## Requests -/

/-- Whatever can be asked of a registry. Most questions about a store are answered by its snapshot;
to describe it is to ask its transformers for their labels. -/
inductive Request (I H E : Type) (U : Kind → Type) where
  | operation (op : Operation I H E U)
  | transformUnit (k : Kind) (unit : U k) (target : Target) (load : LoadContext E)
  | describe

namespace Request

variable [DecidableEq I] [ClassShape U]

def run (r : Roster I H E U) : Request I H E U → SessionM I H Unit
  | .operation op => op.run r
  | .transformUnit k unit target load =>
    discard (TransformRegistry.transformUnit r k unit target load)
  | .describe => do
    let store ← SessionM.getStore
    discard (store.snapshot.description r)

/-- The session after requests, one after another. -/
def runAll (r : Roster I H E U) (requests : List (Request I H E U)) (s : Session I H) :
    Session I H :=
  requests.foldl (fun s q => (q.run r).after s) s

omit [DecidableEq I] [ClassShape U] in
/-- The services of the request have the property while they enumerate. -/
def EnumeratesWith (K : {α : Type} → SessionM I H α → Prop) : Request I H E U → Prop
  | .operation op => op.EnumeratesWith K
  | _ => True

omit [DecidableEq I] [ClassShape U] in
theorem EnumeratesWith.mono {K L : {α : Type} → SessionM I H α → Prop} {q : Request I H E U}
    (hq : q.EnumeratesWith K) (h : ∀ {α : Type} {x : SessionM I H α}, K x → L x) :
    q.EnumeratesWith L := by
  rcases q with (_ | x | ss | _ | _ | _) | _ | _
  case operation.gatherService => exact h hq
  case operation.gather => exact fun x hx => h (hq x hx)
  all_goals trivial

end Request

/-! ## What is so and stays so -/

section Keeping

open SessionM

variable [DecidableEq I] [ClassShape U]

theorem Heritable.request {K : {α : Type} → SessionM I H α → Prop} (hK : Heritable K)
    (records : RecordsWith K) (changes : ChangesWith K) {r : Roster I H E U}
    (applies : r.AppliesWith K) (declares : r.DeclaresWith K) {q : Request I H E U}
    (hq : q.EnumeratesWith K) : K (q.run r) := by
  rcases q with op | ⟨k, unit, target, load⟩ | _
  · exact hK.operation records changes applies declares hq
  · exact hK.map _ (hK.transformUnit records applies)
  · exact hK.bind hK.getStore fun _ => hK.map _ (hK.description declares)

theorem Request.runAll_keeps {P : Store I → H → Prop} (changes : ChangesWith (Keeps P))
    {r : Roster I H E U} (applies : r.AppliesWith (Keeps P)) (declares : r.DeclaresWith (Keeps P))
    {requests : List (Request I H E U)} (hq : ∀ q ∈ requests, q.EnumeratesWith (Keeps P))
    (s : Session I H) (hs : P s.store s.host) :
    P (runAll r requests s).store (runAll r requests s).host := by
  induction requests generalizing s with
  | nil => exact hs
  | cons q rest ih =>
    have one : (q.run r).Keeps P := (keeps_heritable P).request (keeps_records P) changes applies
      declares (hq q List.mem_cons_self)
    exact ih (fun p hp => hq p (List.mem_cons_of_mem _ hp)) _ (one s hs)

end Keeping

/-! ## Noting the store that is found -/

namespace SessionM

def watched (x : SessionM I H α) : SessionM I (H × List (Store I)) α := do
  note (← getStore)
  besideNotes x

theorem after_watched (x : SessionM I H α) (s : Session I (H × List (Store I))) :
    (watched x).after s = (x.after s.withoutNotes).withNotes (s.notes ++ [s.store]) :=
  after_besideNotes x _

end SessionM

def Transformer.watched {U : Type} (t : Transformer I H E U) :
    Transformer I (H × List (Store I)) E U where
  label := t.label.watched
  targets := t.targets.watched
  vote ballot := (t.vote ballot).watched
  transform unit ballot := (t.transform unit ballot).watched

def Roster.watched (r : Roster I H E U) : Roster I (H × List (Store I)) E U where
  transformer k i := (r.transformer k i).watched

def Service.watched (x : Service I H) : Service I (H × List (Store I)) :=
  ⟨x.name, x.transformers.watched⟩

def Operation.watched : Operation I H E U → Operation I (H × List (Store I)) E U
  | .register h => .register h
  | .gatherService x => .gatherService x.watched
  | .gather ss => .gather (.ofList (ss.list.map Service.watched))
  | .seal => .seal
  | .transform u target load => .transform u target load
  | .loadClass cls load => .loadClass cls load

def Request.watched : Request I H E U → Request I (H × List (Store I)) E U
  | .operation op => .operation op.watched
  | .transformUnit k unit target load => .transformUnit k unit target load
  | .describe => .describe

/-- Every store that a transformer or service finds when it is called in the course of the
requests. -/
def Request.seen [DecidableEq I] [ClassShape U] (r : Roster I H E U)
    (requests : List (Request I H E U)) (s : Session I H) : List (Store I) :=
  (runAll r.watched (requests.map watched) (s.withNotes [])).notes

/-- Asked for its targets, the transformer finds the store open; asked for its label, sealed. -/
example :
    (Request.seen meddling [.operation (.register ⟨.method, 3⟩)]
      { store := .empty, host := () }).map Store.isSealed = [false, true] := by
  decide +kernel

/-! A property of watched calls is one of the watched roster. -/

variable {K : {α : Type} → SessionM I H α → Prop}
  {L : {α : Type} → SessionM I (H × List (Store I)) α → Prop}

theorem Roster.AppliesWith.watched (h : ∀ {α : Type} {x : SessionM I H α}, K x → L x.watched)
    {r : Roster I H E U} (hr : r.AppliesWith K) : r.watched.AppliesWith L := fun k i =>
  ⟨h (hr k i).label, fun ballot => h ((hr k i).vote ballot),
    fun unit ballot => h ((hr k i).transform unit ballot)⟩

theorem Roster.DeclaresWith.watched (h : ∀ {α : Type} {x : SessionM I H α}, K x → L x.watched)
    {r : Roster I H E U} (hr : r.DeclaresWith K) : r.watched.DeclaresWith L :=
  ⟨fun handle => h (hr.label handle), fun handle => h (hr.targets handle)⟩

theorem Request.EnumeratesWith.watched (h : ∀ {α : Type} {x : SessionM I H α}, K x → L x.watched)
    {q : Request I H E U} (hq : q.EnumeratesWith K) : q.watched.EnumeratesWith L := by
  rcases q with (_ | x | ss | _ | _ | _) | _ | _
  case operation.gatherService => exact h hq
  case operation.gather =>
    intro y hy
    obtain ⟨x, hx, rfl⟩ := List.mem_map.1 hy
    exact h (hq x hx)
  all_goals trivial

end TransformRegistry
