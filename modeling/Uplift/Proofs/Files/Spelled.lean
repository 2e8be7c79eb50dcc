import Uplift.Proofs.Files.Shape
import Uplift.Proofs.Text.Bytes

/-!
# Paths that spell places

A path from the root that is written without blanks and dots (`Spells`) leads to the place of its
names, whatever else the tree holds: the directories above it only have to be there, and the place
is no link (`resolve_of_spells`). Whether a path is so written can be decided.
-/

namespace Uplift.Files

/-- A path is the names of a place, each after a slash, and short enough to be walked. -/
structure Spells (path : String) (names : Place) : Prop where
  plain : '\x00' ∉ path.toList ∧ path ≠ "" ∧ path.utf8ByteSize ≤ Tree.maxPath
  absolute : isAbsolute path = true
  spelled : segments path = "" :: names
  proper : ProperNames names
  short : ∀ name ∈ names, name.utf8ByteSize ≤ Tree.maxName

instance (path : String) (names : Place) : Decidable (Spells path names) :=
  decidable_of_iff (('\x00' ∉ path.toList ∧ path ≠ "" ∧ path.utf8ByteSize ≤ Tree.maxPath) ∧
    isAbsolute path = true ∧ segments path = "" :: names ∧ ProperNames names ∧
    ∀ name ∈ names, name.utf8ByteSize ≤ Tree.maxName)
    ⟨fun ⟨plain, absolute, spelled, proper, short⟩ => ⟨plain, absolute, spelled, proper, short⟩,
      fun ⟨plain, absolute, spelled, proper, short⟩ => ⟨plain, absolute, spelled, proper, short⟩⟩

namespace Tree

variable {t : Tree} {last : Bool} {links : Nat} {path : String} {base names p : Place}

/-- Names lead down from a directory to the place below it. -/
theorem leads_down (sound : t.Sound) (filled : names ≠ []) (proper : ProperNames names)
    (short : ∀ name ∈ names, name.utf8ByteSize ≤ maxName)
    (above : t.get? (base ++ names).dropLast = some .dir)
    (noLink : ∀ target, t.get? (base ++ names) ≠ some (.link target)) :
    Leads t last links base names (base ++ names) := by
  induction names generalizing base with
  | nil => exact absurd rfl filled
  | cons name names ih =>
    have split : base ++ name :: names = base ++ [name] ++ names := by simp
    rw [List.forall_mem_cons] at short
    rw [split] at above noLink ⊢
    have descends := proper.head.toDescends
    by_cases last : names = []
    · subst last
      rw [List.append_nil] at above noLink ⊢
      rw [List.dropLast_concat] at above
      cases there : t.get? (base ++ [name]) with
      | none => exact .fresh above descends short.1 there
      | some e =>
        exact .down above descends short.1 there (fun target link => noLink target (link ▸ there))
          .here
    · -- The directory of this name is the last one above the place, or above that.
      have dir : t.get? (base ++ [name]) = some .dir := by
        rw [List.dropLast_append_of_ne_nil last] at above
        by_cases next : names.dropLast = []
        · rwa [next, List.append_nil] at above
        · exact sound.dir_above above next
      have here : t.get? base = some .dir := sound.dir_above dir (by simp)
      exact .down here descends short.1 dir (by simp) (ih last proper.tail short.2 above noLink)

/-- A path that spells a place leads there. -/
theorem resolve_of_spells (spells : Spells path names) (sound : t.Sound) (filled : names ≠ [])
    (above : t.get? names.dropLast = some .dir)
    (noLink : ∀ target, t.get? names ≠ some (.link target)) : t.resolve last path = .ok names := by
  refine resolve_of_leads spells.plain ?_
  rw [if_pos spells.absolute, spells.spelled]
  exact .blank (by simp [get?]) (.inl rfl)
    (leads_down sound filled spells.proper spells.short above noLink)

theorem locate_of_spells {e : Entry} (spells : Spells path names) (sound : t.Sound)
    (filled : names ≠ []) (there : t.get? names = some e) (noLink : ∀ target, e ≠ .link target) :
    t.locate path = .ok names := by
  refine resolve_of_spells spells sound filled (sound _ e filled there) fun target link => ?_
  exact noLink target (Option.some.inj (there.symm.trans link))

theorem rootDir_slash (sound : t.Sound) : t.RootDir "/" [] := by
  have names : segments "/" = ["", ""] := by decide +kernel
  have here : t.get? [] = some .dir := by simp [get?]
  refine ⟨sound, locate_of_leads ⟨by simp, by simp, by decide⟩ ?_, here⟩
  rw [names]
  exact .blank here (.inl rfl) (.blank here (.inl rfl) .here)

theorem isDir_slash (sound : t.Sound) : t.isDir "/" = true :=
  isDir_iff.mpr ⟨[], (rootDir_slash sound).located, (rootDir_slash sound).dir⟩

theorem readText_of_located {text : String} {x : Bool} (located : t.locate path = .ok p)
    (there : t.get? p = some (.file (Text.toBytes text) x)) : t.readText path = .ok text := by
  simp only [readText, readBytes, located, there, bind, Except.bind, Text.ofBytes?_toBytes]

end Tree

end Uplift.Files
