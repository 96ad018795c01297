import TransformRegistry.Proofs.Commuting
import TransformRegistry.Proofs.HandOver

/-!
# A description tells what the lookups tell

The lists come out of the indexes and the owners out of a set of their own. Of a store that has grown
from an empty one, they hold what is registered and nothing else: each target once, in its kind's
order, with the labels of its transformers.
-/

namespace TransformRegistry

variable {I H E : Type} {U : Kind → Type}

open SessionM

/-! ## Asking for labels -/

/-- Transformers give their labels one after another, each in the session that the one before left
behind. -/
inductive Named (r : Roster I H E U) :
    Session I H → List (Handle I) → List String → Session I H → Prop
  | nil (u : Session I H) : Named r u [] [] u
  | cons {u v w : Session I H} {h : Handle I} {hs : List (Handle I)} {label : String}
      {labels : List String} : r.label h u = .ok label v → Named r v hs labels w →
      Named r u (h :: hs) (label :: labels) w

/-- Targets are written down in turn, each with the labels of the transformers found for it. -/
inductive Labelled (r : Roster I H E U) (s : Snapshot I) :
    Session I H → List Target → List DescribedTarget → Session I H → Prop
  | nil (u : Session I H) : Labelled r s u [] [] u
  | cons {u v w : Session I H} {t : Target} {ts : List Target} {labels : List String}
      {ds : List DescribedTarget} : Named r u (s.handlesFor t) labels v → Labelled r s v ts ds w →
      Labelled r s u (t :: ts) (⟨t, labels⟩ :: ds) w

variable {r : Roster I H E U} {s : Snapshot I} {u v w : Session I H}

theorem named_of_labels {k : Kind} {ids : List I} {labels : List String}
    (ran : r.labels k ids u = .ok labels v) : Named r u (ids.map (Handle.mk k)) labels v := by
  induction ids generalizing u labels with
  | nil =>
    cases ran
    exact .nil _
  | cons i rest ih =>
    obtain ⟨label, v, labelled, ran⟩ := bind_eq_ok ran
    obtain ⟨labels, w, ran, done⟩ := bind_eq_ok ran
    cases done
    exact .cons labelled (ih ran)

theorem Named.length_eq {hs : List (Handle I)} {labels : List String}
    (named : Named r u hs labels v) : labels.length = hs.length := by
  induction named with
  | nil => rfl
  | cons _ _ ih => rw [List.length_cons, List.length_cons, ih]

theorem Named.eq_map {hs : List (Handle I)} {labels : List String} (named : Named r u hs labels v)
    {name : Handle I → String} (fixed : ∀ h ∈ hs, ∀ s, (r.label h).answer s = .ok (name h)) :
    labels = hs.map name := by
  induction named with
  | nil => rfl
  | cons labelled _ ih =>
    rw [List.forall_mem_cons] at fixed
    have answer := answer_of_ok labelled
    rw [fixed.1] at answer
    cases answer
    rw [List.map_cons, ih fixed.2]

namespace Labelled

variable {ts us : List Target} {ds es : List DescribedTarget}

theorem targets (labelled : Labelled r s u ts ds v) : ds.map (·.target) = ts := by
  induction labelled with
  | nil => rfl
  | cons _ _ ih => rw [List.map_cons, ih]

theorem append (first : Labelled r s u ts ds v) (next : Labelled r s v us es w) :
    Labelled r s u (ts ++ us) (ds ++ es) w := by
  induction first with
  | nil => exact next
  | cons named _ ih => exact .cons named (ih next)

theorem named (labelled : Labelled r s u ts ds v) :
    ∀ d ∈ ds, ∃ u v, Named r u (s.handlesFor d.target) d.transformers v := by
  induction labelled with
  | nil => exact fun d hd => nomatch hd
  | cons named _ ih => exact List.forall_mem_cons.2 ⟨⟨_, _, named⟩, ih⟩

end Labelled

/-! ## One kind after another -/

theorem labelled_of_describeTargets {k : Kind} {ts : List Target} (ofKind : ∀ t ∈ ts, t.kind = k)
    {ds : List DescribedTarget}
    (ran : Snapshot.describeTargets r k (ts.map fun t => (t, s.sequence k t)) u = .ok ds v) :
    Labelled r s u ts ds v := by
  induction ts generalizing u ds with
  | nil =>
    cases ran
    exact .nil _
  | cons t rest ih =>
    rw [List.forall_mem_cons] at ofKind
    obtain ⟨labels, v, named, ran⟩ := bind_eq_ok ran
    obtain ⟨ds, w, ran, done⟩ := bind_eq_ok ran
    cases done
    have named := named_of_labels named
    obtain ⟨rfl, later⟩ := ofKind
    exact .cons named (ih later ran)

/-- A list is that of the targets of the kind, and there is one if the kind is in use. -/
structure KindDescribed (r : Roster I H E U) (s : Snapshot I) (k : Kind) (u : Session I H)
    (list? : Option (List DescribedTarget)) (v : Session I H) : Prop where
  isSome : list?.isSome = (s.indexes.get k).isSome
  labelled : Labelled r s u (s.indexOf k).targets (list?.getD []) v

theorem Snapshot.Consistent.entries_eq (hs : s.Consistent) {k : Kind} {ix : TargetIndex I}
    (present : s.indexes.get k = some ix) :
    ix.sequences.entries = ix.targets.map fun t => (t, s.sequence k t) := by
  have found : s.sequence k = ix.sequence := by
    unfold sequence
    rw [present]
  rw [found]
  exact Keyed.entries_eq_map (hs.sound k ix present).distinct

theorem kindDescribed (hs : s.Consistent) {k : Kind} {list? : Option (List DescribedTarget)}
    (ran : s.describeKind r k u = .ok list? v) : KindDescribed r s k u list? v := by
  unfold Snapshot.describeKind at ran
  cases present : s.indexes.get k with
  | none =>
    rw [present] at ran
    cases ran
    refine ⟨by rw [present]; rfl, ?_⟩
    rw [Snapshot.indexOf, present]
    exact .nil u
  | some ix =>
    rw [present] at ran
    obtain ⟨ds, v, ran, done⟩ := bind_eq_ok ran
    cases done
    refine ⟨by rw [present]; rfl, ?_⟩
    rw [hs.entries_eq present] at ran
    rw [Snapshot.indexOf, present, Option.getD_some, Option.getD_some]
    refine labelled_of_describeTargets (fun t ht => ?_) ran
    exact ((hs.sound k ix present).ofKind t ht).trans (hs.ofKind k ix present)

/-- All entries, those of classes first. -/
def Description.entries (d : Description) : List DescribedTarget :=
  Kind.all.flatMap fun k => (d.lists.get k).getD []

/-- All targets, in the order in which they are described. -/
def Snapshot.listing (s : Snapshot I) : List Target :=
  Kind.all.flatMap fun k => (s.indexOf k).targets

theorem labelled_of_description (hs : s.Consistent) {d : Description}
    (ran : s.description r u = .ok d v) :
    Labelled r s u s.listing d.entries v ∧ ∀ k, (d.lists.get k).isSome = (s.indexes.get k).isSome ∧
      ((d.lists.get k).getD []).map (·.target) = (s.indexOf k).targets := by
  obtain ⟨cls, s₁, first, ran⟩ := bind_eq_ok ran
  obtain ⟨method, s₂, second, ran⟩ := bind_eq_ok ran
  obtain ⟨field, s₃, third, ran⟩ := bind_eq_ok ran
  cases ran
  have first := kindDescribed hs first
  have second := kindDescribed hs second
  have third := kindDescribed hs third
  refine ⟨?_, fun k => ?_⟩
  · have all := first.labelled.append (second.labelled.append third.labelled)
    simpa [Snapshot.listing, Description.entries, Kind.all, PerKind.get] using all
  · cases k with
    | cls => exact ⟨first.isSome, first.labelled.targets⟩
    | method => exact ⟨second.isSome, second.labelled.targets⟩
    | field => exact ⟨third.isSome, third.labelled.targets⟩

/-! ## The whole description -/

theorem Snapshot.Consistent.mem_listing_iff (hs : s.Consistent) {t : Target} :
    t ∈ s.listing ↔ s.isTargeted t = true := by
  rw [hs.isTargeted_iff, listing, List.mem_flatMap]
  constructor
  · rintro ⟨k, -, ht⟩
    obtain ⟨sound, kind⟩ := hs.indexOf_sound k
    rwa [(sound.ofKind t ht).trans kind]
  · exact fun ht => ⟨t.kind, Kind.mem_all _, ht⟩

/-- What a description says of a snapshot that has taken in these registrations. -/
structure Describes (r : Roster I H E U) (s : Snapshot I) (log : List (Declaration I))
    (u : Session I H) (d : Description) (v : Session I H) : Prop where
  kinds : ∀ k, (d.lists.get k).isSome = true ↔ k ∈ s.kinds
  /-- A target stands where it was declared first. -/
  order : ∀ k ds, d.lists.get k = some ds → ds.map (·.target) = (declaredTargets log k).eraseDups
  once : ∀ k ds, d.lists.get k = some ds → (ds.map (·.target)).Nodup
  ofKind : ∀ k ds, d.lists.get k = some ds →
    ∀ t, t ∈ ds.map (·.target) ↔ t.kind = k ∧ s.isTargeted t = true
  labelled : Labelled r s u s.listing d.entries v
  length : ∀ e ∈ d.entries, e.transformers.length = (s.handlesFor e.target).length
  filled : ∀ e ∈ d.entries, e.transformers ≠ []
  /-- Where labels do not change, it is those that are listed. -/
  labels : ∀ name : Handle I → String,
    (∀ t, ∀ h ∈ s.handlesFor t, ∀ s, (r.label h).answer s = .ok (name h)) →
      ∀ e ∈ d.entries, e.transformers = (s.handlesFor e.target).map name
  listed : ∀ t, t ∈ d.entries.map (·.target) ↔ s.isTargeted t = true
  increasing : d.owners.Pairwise fun a b => a.text < b.text
  touched : ∀ text, text ∈ d.owners.map (·.text) ↔
    '/' ∉ text.toList ∧ s.needsClass text = true
  owners : ∀ o, o ∈ d.owners ↔ o ∈ d.entries.map (·.target.owner)

variable [DecidableEq I]

theorem describes_of_description {log : List (Declaration I)} (hs : s.Consistent)
    (holds : s.Holds log) {d : Description} (ran : s.description r u = .ok d v) :
    Describes r s log u d v := by
  obtain ⟨labelled, lists⟩ := labelled_of_description hs ran
  have targets : ∀ {k ds}, d.lists.get k = some ds → ds.map (·.target) = (s.indexOf k).targets := by
    intro k ds here
    have list := (lists k).2
    rwa [here] at list
  have listed (t : Target) : t ∈ d.entries.map (·.target) ↔ s.isTargeted t = true := by
    rw [labelled.targets]
    exact hs.mem_listing_iff
  have length : ∀ e ∈ d.entries, e.transformers.length = (s.handlesFor e.target).length := by
    intro e he
    obtain ⟨u, v, named⟩ := labelled.named e he
    exact named.length_eq
  have owners (o : ClassName) : o ∈ d.owners ↔ s.touchesClass o = true := by
    rw [owners_of_description ran, ClassName.mem_sort, Snapshot.touchesClass, List.contains_iff_mem]
  refine {
    kinds := fun k => ?_
    order := fun k ds here => (targets here).trans (holds.targets k)
    once := fun k ds here => ?_
    ofKind := fun k ds here t => ?_
    labelled := labelled
    length := length
    filled := fun e he none => ?_
    labels := fun name fixed e he => ?_
    listed := listed
    increasing := ?_
    touched := fun text => ?_
    owners := fun o => ?_ }
  · rw [(lists k).1]
    simp [Snapshot.kinds, Kind.mem_all]
  · rw [targets here]
    exact (hs.indexOf_sound k).1.distinct
  · obtain ⟨sound, kind⟩ := hs.indexOf_sound k
    rw [targets here, hs.isTargeted_iff]
    constructor
    · intro ht
      have ofKind := (sound.ofKind t ht).trans kind
      exact ⟨ofKind, ofKind.symm ▸ ht⟩
    · rintro ⟨rfl, ht⟩
      exact ht
  · have targeted := (listed e.target).1 (List.mem_map_of_mem he)
    have some := hs.isTargeted_iff_handlesFor.1 targeted
    have empty := length e he
    rw [none] at empty
    exact some (List.length_eq_zero_iff.1 empty.symm)
  · obtain ⟨u, v, named⟩ := labelled.named e he
    exact named.eq_map (fixed e.target)
  · rw [owners_of_description ran]
    exact ClassName.sort_increasing hs.ownersOnce
  · rw [List.mem_map]
    constructor
    · rintro ⟨o, ho, rfl⟩
      rw [Snapshot.needsClass_text]
      exact ⟨o.slashFree, (owners o).1 ho⟩
    · rintro ⟨slashFree, needed⟩
      rw [Snapshot.needsClass_ofText] at needed
      exact ⟨.ofText text, (owners _).2 needed, ClassName.text_ofText slashFree⟩
  · rw [owners, hs.touchesClass_iff, List.mem_map]
    constructor
    · rintro ⟨t, targeted, rfl⟩
      obtain ⟨e, he, rfl⟩ := List.mem_map.1 ((listed t).2 targeted)
      exact ⟨e, he, rfl⟩
    · rintro ⟨e, he, rfl⟩
      exact ⟨e.target, (listed e.target).1 (List.mem_map_of_mem he), rfl⟩

/-- A store that has grown from an empty one can be described unless a registered transformer
crashes on giving its label, and every description is complete and true. -/
theorem description_complete {settings : Settings} {log : List (Declaration I)} {store : Store I}
    (grows : (Store.empty settings).Grows log store) (r : Roster I H E U) :
    ((∀ t, ∀ h ∈ store.snapshot.handlesFor t, (r.label h).Ends) →
      (store.snapshot.description r).Ends) ∧
    ∀ u d v, store.snapshot.description r u = .ok d v →
      Describes r store.snapshot log u d v := by
  have hs := Store.Reachable.consistent ⟨settings, log, grows⟩
  have holds := grows.holds Snapshot.Holds.empty
  refine ⟨fun ends => ?_, fun u d v => describes_of_description hs holds⟩
  refine ends_heritable.description_of_listed fun k ix present e he i hi => ?_
  rw [hs.entries_eq present] at he
  obtain ⟨t, ht, rfl⟩ := List.mem_map.1 he
  have ofKind := ((hs.sound k ix present).ofKind t ht).trans (hs.ofKind k ix present)
  subst ofKind
  exact ends t _ (List.mem_map_of_mem hi)

/-- A method that is declared twice at once, and one that two transformers share. -/
theorem description_complete_methods :
    let log : List (Declaration Nat) := [
      (⟨.method, 1⟩, [.ofMethod "b/B" "m" "()V", .ofMethod "A" "m" "()V",
        .ofMethod "b.B" "m" "()V"]),
      (⟨.cls, 2⟩, [.ofClass "A"]), (⟨.method, 2⟩, [.ofMethod "A" "m" "()V"])]
    let done := (Store.empty {}).handOver log
    let call : SessionM Nat Unit Description := done.store.snapshot.description twoClasses
    let u : Session Nat Unit := { store := done.store, host := () }
    (Store.empty {}).Grows log done.store ∧ call.Ends ∧
      ∃ d, call u = .ok d (call.after u) ∧ d.lists = ⟨some [⟨.ofClass "A", ["2"]⟩],
        some [⟨.ofMethod "b.B" "m" "()V", ["1"]⟩, ⟨.ofMethod "A" "m" "()V", ["1", "2"]⟩], none⟩ ∧
      Describes twoClasses done.store.snapshot log u d (call.after u) := by
  intro log done call u
  have taken : done.taken = log := by decide +kernel
  have grows : (Store.empty {}).Grows log done.store := by
    rw [← taken]
    exact Store.handOver_grows _ log
  obtain ⟨ends, described⟩ := description_complete grows twoClasses
  have ends : call.Ends := ends fun _ _ _ _ => ⟨_, rfl⟩
  obtain ⟨d, answer⟩ := ends u
  have ran := eq_ok_of_answer answer
  have lists : (call.answer u).map (·.lists) = .ok ⟨some [⟨.ofClass "A", ["2"]⟩],
      some [⟨.ofMethod "b.B" "m" "()V", ["1"]⟩, ⟨.ofMethod "A" "m" "()V", ["1", "2"]⟩], none⟩ := by
    decide +kernel
  rw [answer] at lists
  exact ⟨grows, ends, d, ran, Except.ok.inj lists, described u d _ ran⟩

end TransformRegistry
