import Uplift.Migration.FileTools
import Uplift.Proofs.Files.PlainDir

/-!
# What the file tools read and write

In a project without symbolic links, the text that is read at a path is the text that its place
holds (`holdsText_of_textOf`), and what a successful write replaces is what reading would have given
just before it (`textOf_of_written`). A write changes no other place, save that it may make
directories where nothing was (`write_keeps`).
-/

namespace Uplift.Migration.FileTools

open Uplift.Files Uplift.Files.Tree

/-- A place holds a text: a file with that text, or nothing if the text is empty. -/
def HoldsText (t : Tree) (p : Place) (text : String) : Prop :=
  (∃ bytes x, t.get? p = some (.file bytes x) ∧ Text.ofBytes? bytes = some text) ∨
    (t.get? p = none ∧ text = "")

/-- A place holds a text, unless a directory was made there. -/
def Keeps (t : Tree) (p : Place) (text : String) : Prop :=
  HoldsText t p text ∨ t.get? p = some .dir

variable {t t' : Tree} {root path text : String} {base p q : Place} {names : List String}

/-- The names of a path in the project are proper. -/
theorem properNames_of_resolve (resolved : resolve path = .ok names) : ProperNames names := by
  have mem_steps {steps : List Step} {names : List String} (all : namesOf steps = some names) :
      ∀ name ∈ names, .down name ∈ steps := by
    induction steps generalizing names with
    | nil =>
      obtain rfl := Option.some.inj all
      simp
    | cons step steps ih =>
      cases step with
      | root => cases all
      | up => cases all
      | here => exact fun name member => List.mem_cons_of_mem _ (ih all name member)
      | down first =>
        obtain ⟨rest, later, rfl⟩ := Option.map_eq_some_iff.mp all
        intro name member
        rcases List.mem_cons.mp member with rfl | member
        · exact List.mem_cons_self ..
        · exact List.mem_cons_of_mem _ (ih later name member)
  simp only [resolve] at resolved
  split at resolved
  · cases resolved
  · split at resolved
    · next all =>
      obtain rfl := Except.ok.inj resolved
      exact fun name member => properName_of_mem_parts (mem_steps all name member)
    · cases resolved

/-! ## Reading -/

theorem textOf_of_holds (holds : HoldsText t p text) (located : t.locate path = .ok p) :
    textOf t path = .ok text := by
  rcases holds with ⟨bytes, x, file, decoded⟩ | ⟨absent, rfl⟩
  · simp [textOf, readText, readBytes, located, file, decoded, bind, Except.bind]
  · simp [textOf, readText, readBytes, located, absent, bind, Except.bind]

theorem textOf_of_notFound (missing : t.locate path = .error .notFound) :
    textOf t path = .ok "" := by
  simp [textOf, readText, readBytes, missing, bind, Except.bind]

/-- A path that is read leads to a place that holds the text, or leads nowhere. -/
theorem textOf_cases (read : textOf t path = .ok text) :
    (∃ p, t.locate path = .ok p ∧ HoldsText t p text) ∨
      (t.locate path = .error .notFound ∧ text = "") := by
  cases located : t.locate path with
  | error e =>
    cases e with
    | notFound =>
      rw [textOf_of_notFound located] at read
      exact .inr ⟨rfl, (Except.ok.inj read).symm⟩
    | _ => simp [textOf, readText, readBytes, located, bind, Except.bind] at read
  | ok p =>
    refine .inl ⟨p, rfl, ?_⟩
    cases here : t.get? p with
    | none =>
      rw [textOf_of_holds (.inr ⟨here, rfl⟩) located] at read
      exact .inr ⟨here, (Except.ok.inj read).symm⟩
    | some e =>
      cases e with
      | file bytes x =>
        cases decoded : Text.ofBytes? bytes with
        | none =>
          simp [textOf, readText, readBytes, located, here, decoded, bind, Except.bind] at read
        | some content =>
          rw [textOf_of_holds (.inl ⟨bytes, x, here, decoded⟩) located] at read
          exact .inl ⟨bytes, x, here, Except.ok.inj read ▸ decoded⟩
      | dir => simp [textOf, readText, readBytes, located, here, bind, Except.bind] at read
      | link target => simp [textOf, readText, readBytes, located, here, bind, Except.bind] at read

/-- The text that is read at a path of the project is the text that its place holds. -/
theorem holdsText_of_textOf (plain : t.PlainDir root base) (proper : ProperNames names)
    (read : textOf t (joinNames root names) = .ok text) : HoldsText t (base ++ names) text := by
  rcases textOf_cases read with ⟨p, located, holds⟩ | ⟨missing, rfl⟩
  · exact plain.locate_eq proper located ▸ holds
  · exact .inr ⟨plain.absent_of_notFound proper missing, rfl⟩

/-! ## Writing -/

theorem Keeps.grows (grows : Grows t t') (keeps : Keeps t p text) : Keeps t' p text := by
  rcases keeps with (⟨bytes, x, file, decoded⟩ | ⟨absent, empty⟩) | dir
  · exact .inl (.inl ⟨bytes, x, grows.kept _ _ file, decoded⟩)
  · exact (grows.made p absent).imp (fun still => .inr ⟨still, empty⟩) id
  · exact .inr (grows.kept _ _ dir)

theorem Keeps.put {e : Entry} (filled : q ≠ []) (other : p ≠ q) (keeps : Keeps t p text) :
    Keeps (t.put q e) p text := by
  have same : (t.put q e).get? p = t.get? p := by rw [get?_put t e p filled, if_neg other]
  simpa only [Keeps, HoldsText, same] using keeps

/-- What a write does in a project: it may make directories, and if it succeeds, it puts a file at
the place that the names spell. -/
theorem write_cases (plain : t.PlainDir root base) (proper : ProperNames names)
    (dir : Option String) (content : String) :
    ∃ t₁, Grows t t₁ ∧ t₁.PlainDir root base ∧
      ((∃ cause, t.writeTextIn dir (joinNames root names) content = (.error cause, t₁)) ∨
        ∃ x, t₁.locate (joinNames root names) = .ok (base ++ names) ∧ t₁.Free (base ++ names) ∧
          t.writeTextIn dir (joinNames root names) content =
            (.ok (), t₁.put (base ++ names) (.file (Text.toBytes content) x))) := by
  obtain ⟨t₁, grows, outcome⟩ := writeTextIn_cases dir (joinNames root names) content plain.sound
  have grown := plain.grows grows
  refine ⟨t₁, grows, grown, outcome.imp_right ?_⟩
  rintro ⟨t₂, written, done⟩
  obtain ⟨p, x, located, free, rfl⟩ := writeText_ok grown.sound written
  obtain rfl := grown.locate_eq proper located
  exact ⟨x, located, free, done⟩

/-- A write keeps the project, and what other places than its own hold. -/
theorem write_keeps (plain : t.PlainDir root base) (proper : ProperNames names)
    (dir : Option String) (content : String) :
    let t' := (t.writeTextIn dir (joinNames root names) content).2
    t'.PlainDir root base ∧
      ∀ p text, p ≠ base ++ names → Keeps t p text → Keeps t' p text := by
  obtain ⟨t₁, grows, grown, ⟨cause, failed⟩ | ⟨x, -, free, done⟩⟩ :=
    write_cases plain proper dir content
  · rw [failed]
    exact ⟨grown, fun p text _ keeps => keeps.grows grows⟩
  · rw [done]
    exact ⟨grown.put free, fun p text other keeps => (keeps.grows grows).put free.ne_nil other⟩

/-- What a successful write replaces is the text that the place held, and it is what reading would
have given. -/
theorem textOf_of_written (plain : t.PlainDir root base) (proper : ProperNames names)
    {dir : Option String} {content : String}
    (written : (t.writeTextIn dir (joinNames root names) content).1 = .ok ())
    (keeps : Keeps t (base ++ names) text) : textOf t (joinNames root names) = .ok text := by
  obtain ⟨t₁, grows, grown, ⟨cause, failed⟩ | ⟨x, located, free, -⟩⟩ :=
    write_cases plain proper dir content
  · cases written.symm.trans (congrArg Prod.fst failed)
  · -- A directory at the place would still be there, and the write would have failed.
    have holds : HoldsText t (base ++ names) text := by
      refine keeps.resolve_right fun dir => ?_
      exact free.ne_dir (grows.kept _ _ dir)
    rcases plain.locate_before grown grows proper located with found | missing
    · exact textOf_of_holds holds found
    · -- The directories on the way were made by the write itself, so nothing was there before.
      have absent := plain.absent_of_notFound proper missing
      rcases holds with ⟨bytes, x, file, -⟩ | ⟨-, rfl⟩
      · cases absent.symm.trans file
      · exact textOf_of_notFound missing

end Uplift.Migration.FileTools
