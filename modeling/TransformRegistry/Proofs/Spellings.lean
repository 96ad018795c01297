import TransformRegistry.Proofs.Consistency
import TransformRegistry.Proofs.Lockstep
import TransformRegistry.Proofs.PlainUnits
import TransformRegistry.Proofs.StrictTargets

/-!
# The spelling of an owner

An owner is read in three places: where targets are made, where the loader asks whether a class is
touched, and where a class is loaded. Two owners that read the same with dots are one owner in all
three, and what comes of a load can differ in no more than the name of the class.
-/

namespace TransformRegistry

variable {I H E : Type} {U : Kind → Type}

open SessionM

/-! ## Targets -/

namespace Spelling

/-- The same, of another owner. -/
def under (owner : String) : Spelling → Spelling
  | .cls _ => .cls owner
  | .method _ name descriptor => .method owner name descriptor
  | .field _ name descriptor => .field owner name descriptor

variable {owner other : String}

theorem target_under (same : owner.map dotted = other.map dotted) (p : Spelling) :
    (p.under owner).target = (p.under other).target := by
  have names : ClassName.ofText owner = .ofText other := ClassName.ext same
  cases p <;>
    simp only [under, target, Target.ofClass, Target.ofMethod, Target.ofField, names]

theorem wellFormed_under (same : owner.map dotted = other.map dotted) (p : Spelling) :
    (p.under owner).WellFormed ↔ (p.under other).WellFormed := by
  have owners : WellFormedOwner owner ↔ WellFormedOwner other := by
    rw [← respells_dotted.wellFormedOwner_iff, same, respells_dotted.wellFormedOwner_iff]
  cases p with
  | cls => exact owners
  | method | field => exact and_congr_left' owners

theorem strict_under (same : owner.map dotted = other.map dotted) (p : Spelling) (t : Target) :
    (p.under owner).strict = .ok t ↔ (p.under other).strict = .ok t := by
  rw [strict_eq_ok_iff, strict_eq_ok_iff, wellFormed_under same, target_under same]

end Spelling

/-! ## Classes that are named otherwise -/

/-- A family of units whose classes can be given another name. The name is a part of a class of its
own. -/
class NamedShape (U : Kind → Type) extends ClassShape U where
  rename : String → U .cls → U .cls
  name_rename : ∀ n c, name (rename n c) = n
  rename_name : ∀ c, rename (name c) c = c
  rename_rename : ∀ n m c, rename n (rename m c) = rename n c
  fields_rename : ∀ n c, fields (rename n c) = fields c
  methods_rename : ∀ n c, methods (rename n c) = methods c
  setFields_rename : ∀ n c fs, setFields (rename n c) fs = rename n (setFields c fs)
  setMethods_rename : ∀ n c ms, setMethods (rename n c) ms = rename n (setMethods c ms)

/-- The classes differ at most in what they are called. -/
def SameButName [NamedShape U] (c d : U .cls) : Prop := ∃ n, d = NamedShape.rename n c

variable [NamedShape U]

theorem sameParts_sameButName : SameParts (SameButName (U := U)) where
  fields := by
    rintro c _ ⟨n, rfl⟩
    exact (NamedShape.fields_rename n c).symm
  methods := by
    rintro c _ ⟨n, rfl⟩
    exact (NamedShape.methods_rename n c).symm
  setFields := by
    rintro c _ ⟨n, rfl⟩ fs
    exact ⟨n, NamedShape.setFields_rename n c fs⟩
  setMethods := by
    rintro c _ ⟨n, rfl⟩ ms
    exact ⟨n, NamedShape.setMethods_rename n c ms⟩

/-- The transformer does not read the name of a class: of classes that differ in nothing else it
makes such classes, or fails with both for one reason, and does the same to the session. -/
structure Transformer.IgnoresName (x : Transformer I H E (U .cls)) : Prop where
  answer : ∀ c d, SameButName c d → ∀ ballot s,
    EndAlike (EndAlike SameButName) ((x.transform c ballot).answer s)
      ((x.transform d ballot).answer s)
  after : ∀ c d, SameButName c d → ∀ ballot s,
    (x.transform d ballot).after s = (x.transform c ballot).after s

/-- The same call, but that a class may be named otherwise. -/
inductive SameCall : Call (Handle I) E (CodeUnit U) → Call (Handle I) E (CodeUnit U) → Prop
  | same (call : Call (Handle I) E (CodeUnit U)) : SameCall call call
  | cls {c d : U .cls} (who : Handle I) (ballot : Ballot E) : SameButName c d →
      SameCall (.transform who ⟨.cls, c⟩ ballot) (.transform who ⟨.cls, d⟩ ballot)

/-- In one session, loads of the two classes end alike but for names, leave the same session with
the same trails in it, and make the same calls of transformers. -/
structure SameLoads [DecidableEq I] (r : Roster I H E U) (load : LoadContext E) (c d : U .cls)
    (s : Session I H) : Prop where
  answer : EndAlike (EndAlike SameButName) ((loadClass r c load).answer s)
    ((loadClass r d load).answer s)
  after : (loadClass r d load).after s = (loadClass r c load).after s
  calls : List.Forall₂ SameCall ((loadClass r.writing c load).noted s)
    ((loadClass r.writing d load).noted s)

/-! ## Loads that cannot be told apart -/

/-- Sessions with the same in them, but for the names of classes in the calls that are noted. -/
abbrev CallsAlike : Session I (H × List (Call (Handle I) E (CodeUnit U))) →
    Session I (H × List (Call (Handle I) E (CodeUnit U))) → Prop :=
  AlsoInNotesUpTo Eq (List.Forall₂ SameCall)

theorem companions_eq : Companions (Eq : Session I H → Session I H → Prop) where
  report _ := by
    rintro s _ rfl
    exact ⟨rfl, rfl⟩
  record _ _ _ := by
    rintro s _ rfl
    exact ⟨rfl, rfl⟩

theorem SessionM.inStep_self {α : Type} (x : SessionM I H α) : SessionM.InStep Eq x x := by
  rintro s _ rfl
  exact ⟨rfl, rfl⟩

theorem Transformer.inStep_self {V : Type} (x : Transformer I H E V) : x.InStep Eq x :=
  ⟨x.label.inStep_self, fun ballot => (x.vote ballot).inStep_self,
    fun unit ballot => (x.transform unit ballot).inStep_self⟩

theorem Transformer.writing_callsAlike {k : Kind} (x : Transformer I H E (U k)) (who : Handle I) :
    (x.writing who (CodeUnit.mk k)).InStep CallsAlike (x.writing who (CodeUnit.mk k)) := by
  refine Transformer.inStep_iff.2 ((Transformer.inStep_iff.1 x.inStep_self).writing ?_ ?_)
  · exact fun ballot => .same _
  · rintro unit _ rfl ballot
    exact .same _

namespace Transformer.IgnoresName

variable {x : Transformer I H E (U .cls)}

theorem inStepUpTo (hx : x.IgnoresName) : x.InStepUpTo Eq SameButName x where
  label := x.label.inStep_self
  vote ballot := (x.vote ballot).inStep_self
  transform c d same ballot := by
    rintro s _ rfl
    exact ⟨hx.answer c d same ballot s, (hx.after c d same ballot s).symm⟩

theorem writing (hx : x.IgnoresName) (who : Handle I) :
    (x.writing who (CodeUnit.mk .cls)).InStepUpTo CallsAlike SameButName
      (x.writing who (CodeUnit.mk .cls)) :=
  hx.inStepUpTo.writing (fun _ => .same _) fun _ _ same ballot => .cls who ballot same

end Transformer.IgnoresName

theorem sameLoads [DecidableEq I] {r : Roster I H E U} {load : LoadContext E} {c d : U .cls}
    {s : Session I H} (differ : SameButName c d)
    (owner : ClassName.ofText (ClassShape.name d) = .ofText (ClassShape.name c))
    (hr : ∀ i ∈ s.store.snapshot.sequence .cls (.ofClass (ClassShape.name c)),
      (r.transformer .cls i).IgnoresName) : SameLoads r load c d s := by
  have bare : MeetUpTo Eq (EndAlike SameButName) (loadClass r c load) (loadClass r d load) s s :=
    companions_eq.loadClassUpTo sameParts_sameButName (fun k _ i => (r.transformer k i).inStep_self)
      differ owner (fun i hi => (hr i hi).inStepUpTo) rfl rfl
  have noted : MeetUpTo CallsAlike (EndAlike SameButName) (loadClass r.writing c load)
      (loadClass r.writing d load) (s.withNotes []) (s.withNotes []) :=
    companions_eq.alsoInNotesUpTo.loadClassUpTo sameParts_sameButName
      (fun k _ i => (r.transformer k i).writing_callsAlike ⟨k, i⟩)
      differ owner (fun i hi => (hr i hi).writing ⟨.cls, i⟩) ⟨rfl, .nil⟩ rfl
  exact ⟨bare.1, bare.2.symm, noted.2.2⟩

/-- Owners that read the same with dots make the same targets, strictly or not, and the loader gets
the same answer of both. Where no transformer of the class reads its name, loads of two classes that
are named so, and differ in nothing else, are the same. -/
theorem owner_spelling_immaterial [DecidableEq I] {owner other : String}
    (same : owner.map dotted = other.map dotted) :
    (∀ p : Spelling, (p.under owner).target = (p.under other).target ∧
        ∀ t, (p.under owner).strict = .ok t ↔ (p.under other).strict = .ok t) ∧
      (∀ store : Store I, store.Reachable →
        store.snapshot.needsClass owner = store.snapshot.needsClass other ∧
        (store.snapshot.needsClass owner = true ↔
          ∃ t, store.snapshot.isTargeted t = true ∧ t.owner.text = owner.map dotted)) ∧
      ∀ (r : Roster I H E U) (load : LoadContext E) (c d : U .cls) (s : Session I H),
        ClassShape.name c = owner → ClassShape.name d = other → SameButName c d →
        (∀ i ∈ s.store.snapshot.sequence .cls (.ofClass owner),
          (r.transformer .cls i).IgnoresName) →
        SameLoads r load c d s := by
  have names : ClassName.ofText other = .ofText owner := ClassName.ext same.symm
  refine ⟨fun p => ⟨p.target_under same, p.strict_under same⟩, fun store hs => ⟨?_, ?_⟩, ?_⟩
  · rw [Snapshot.needsClass_ofText, Snapshot.needsClass_ofText, names]
  · exact hs.consistent.needsClass_iff
  · rintro r load c d s rfl rfl differ hr
    exact sameLoads differ names hr

instance : NamedShape PlainUnit where
  rename n c := { c with name := n }
  name_rename _ _ := rfl
  rename_name _ := rfl
  rename_rename _ _ _ := rfl
  fields_rename _ _ := rfl
  methods_rename _ _ := rfl
  setFields_rename _ _ _ := rfl
  setMethods_rename _ _ _ := rfl

theorem Roster.marking_ignoresName (targets : Handle Nat → SessionM Nat Unit (List Target))
    (i : Nat) : ((Roster.marking targets).transformer .cls i).IgnoresName where
  answer := by
    rintro c _ ⟨n, rfl⟩ ballot s
    exact .ok (.ok ⟨n, rfl⟩)
  after _ _ _ _ _ := rfl

/-- The transformer is registered for the class in one spelling, and finds it in both. -/
theorem owner_spelling_immaterial_marked :
    let r := Roster.marking fun _ => return []
    let c : PlainClass := { name := "a/B" }
    let d : PlainClass := { name := "a.B" }
    let s₀ : Session Nat Unit := { store := .empty, host := () }
    let s := (registerFor r ⟨.cls, 2⟩ [.ofClass "a.B"]).after s₀
    (loadClass r c {}).answer s = .ok (.ok { c with marks := ["2"] }) ∧ SameLoads r {} c d s := by
  intro r c d s₀ s
  have same : c.name.map dotted = d.name.map dotted := by decide +kernel
  have ended : (loadClass r c {}).answer s = .ok (.ok { c with marks := ["2"] }) := by
    decide +kernel
  refine ⟨ended, ?_⟩
  have blind : ∀ i, (r.transformer .cls i).IgnoresName := Roster.marking_ignoresName _
  clear_value s
  exact (owner_spelling_immaterial same).2.2 r {} c d s rfl rfl ⟨d.name, rfl⟩ fun i _ => blind i

end TransformRegistry
