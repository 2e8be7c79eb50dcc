import Mathlib
import Uplift.Proofs.Except
import Uplift.Proofs.Text.Bytes
import Uplift.Scan.Walker

/-!
# What a walk collects

* The files of a walk stand in the order of their paths (`Walker.sorted_collect`).
* A walk with a glob collects only what the glob keeps (`Walker.wants_of_mem_collect`); if the glob
  is a plain name, the path of such a file is that name or ends with it after a slash
  (`Walker.path_of_wants`).
-/

namespace Uplift.Files

/-! ## The order of paths -/

theorem namesLe_trans (a b c : List String) (hab : namesLe a b = true) (hbc : namesLe b c = true) :
    namesLe a c = true := by
  induction a generalizing b c with
  | nil => rfl
  | cons x a ih =>
    cases b with
    | nil => cases hab
    | cons y b =>
      cases c with
      | nil => cases hbc
      | cons z c =>
        simp only [namesLe] at hab hbc ⊢
        by_cases hxy : x = y
        · subst hxy
          rw [if_pos rfl] at hab
          by_cases hxz : x = z
          · rw [if_pos hxz] at hbc ⊢
            exact ih b c hab hbc
          · rwa [if_neg hxz] at hbc ⊢
        · rw [if_neg hxy, decide_eq_true_iff] at hab
          by_cases hyz : y = z
          · subst hyz
            rw [if_neg hxy, decide_eq_true_iff]
            exact hab
          · rw [if_neg hyz, decide_eq_true_iff] at hbc
            have hxz : x < z := hab.trans hbc
            rw [if_neg hxz.ne, decide_eq_true_iff]
            exact hxz

theorem namesLe_total (a b : List String) : (namesLe a b || namesLe b a) = true := by
  induction a generalizing b with
  | nil => rfl
  | cons x a ih =>
    cases b with
    | nil => rfl
    | cons y b =>
      simp only [namesLe]
      by_cases hxy : x = y
      · rw [if_pos hxy, if_pos hxy.symm]
        exact ih b
      · rw [if_neg hxy, if_neg (Ne.symm hxy), Bool.or_eq_true, decide_eq_true_iff,
          decide_eq_true_iff]
        exact lt_or_gt_of_ne hxy

/-! ## Globs that are plain names -/

namespace Glob

/-- Characters that mean themselves take all of exactly one text. -/
theorem nil_mem_seqRests_exactly {cs : List Char} {s : List UInt8} :
    [] ∈ seqRests (cs.map .exactly) s ↔ s = Text.toBytes (String.ofList cs) := by
  induction cs generalizing s with
  | nil =>
    have none : Text.toBytes (String.ofList []) = [] := rfl
    rw [List.map_nil, seqRests, List.mem_singleton, none]
    exact eq_comm
  | cons c cs ih =>
    have split : String.ofList (c :: cs) = String.singleton c ++ String.ofList cs := by
      rw [← String.toList_inj]
      simp
    rw [List.map_cons, seqRests, rests, split, Text.toBytes_append]
    by_cases h : (Text.toBytes (String.singleton c)).isPrefixOf s = true
    · obtain ⟨rest, rfl⟩ := List.isPrefixOf_iff_prefix.mp h
      rw [if_pos h, List.flatMap_singleton, List.drop_left, ih, List.append_cancel_left_eq]
    · rw [if_neg h, List.flatMap_nil]
      constructor
      · intro member
        cases member
      · rintro rfl
        exact absurd (List.isPrefixOf_iff_prefix.mpr (List.prefix_append _ _)) h

theorem mem_afterSlashes {rest s : List UInt8} :
    rest ∈ afterSlashes s ↔ ∃ lead, s = lead ++ slash :: rest := by
  induction s with
  | nil => simp [afterSlashes]
  | cons b s ih =>
    rw [afterSlashes, List.mem_append, ih]
    constructor
    · rintro (here | ⟨lead, rfl⟩)
      · by_cases hb : b = slash
        · rw [if_pos hb, List.mem_singleton] at here
          exact ⟨[], by rw [hb, here]; rfl⟩
        · rw [if_neg hb] at here
          cases here
      · exact ⟨b :: lead, rfl⟩
    · rintro ⟨lead, split⟩
      cases lead with
      | nil =>
        obtain ⟨rfl, rfl⟩ := List.cons.inj split
        exact .inl (by simp)
      | cons d lead => exact .inr ⟨lead, (List.cons.inj split).2⟩

/-- A plain name at any depth. -/
theorem isMatch_name {cs : List Char} {path : String} (filled : cs ≠ []) :
    isMatch (.manyNamesFirst :: cs.map .exactly) path = true ↔
      Text.toBytes path = Text.toBytes (String.ofList cs) ∨
        ∃ lead, Text.toBytes path = lead ++ slash :: Text.toBytes (String.ofList cs) := by
  have shape : isMatch (.manyNamesFirst :: cs.map .exactly) path =
      (seqRests (.manyNamesFirst :: cs.map .exactly) (Text.toBytes path)).any List.isEmpty := by
    cases cs with
    | nil => exact absurd rfl filled
    | cons => rfl
  rw [shape, List.any_eq_true]
  simp only [List.isEmpty_iff, exists_eq_right, seqRests, rests, List.flatMap_cons,
    List.mem_append, List.mem_flatMap, nil_mem_seqRests_exactly, mem_afterSlashes]

end Glob

end Uplift.Files

namespace Uplift.Text

/-- If the bytes of a text end like those of ASCII characters, the text ends with these. -/
theorem exists_append_of_toBytes {s : List Char} {lead : List UInt8} {cs : List Char}
    (ascii : ∀ c ∈ cs, c.toNat < 128)
    (same : s.flatMap String.utf8EncodeChar = lead ++ cs.flatMap String.utf8EncodeChar) :
    ∃ s', s = s' ++ cs := by
  induction cs using List.reverseRecOn generalizing s with
  | nil => exact ⟨s, (List.append_nil s).symm⟩
  | append_singleton cs c ih =>
    have hc : c.toNat < 128 := ascii c (by simp)
    have single : String.utf8EncodeChar c = [UInt8.ofNat c.toNat] := by
      rw [String.utf8EncodeChar.eq_1, if_pos (by show c.toNat ≤ 127; omega)]
      rfl
    rw [List.flatMap_append, List.flatMap_singleton, ← List.append_assoc] at same
    cases s using List.reverseRecOn with
    | nil => simp [single] at same
    | append_singleton s d =>
      rw [List.flatMap_append, List.flatMap_singleton] at same
      -- The last byte is below 128, so it is the whole last character.
      have last : UInt8.ofNat c.toNat ∈ String.utf8EncodeChar d := by
        have ends := congrArg List.getLast? same
        rw [single, List.getLast?_append_of_ne_nil _ (by simp)] at ends
        rcases nil : (String.utf8EncodeChar d).getLast? with _ | b
        · have empty := List.getLast?_eq_none_iff.mp nil
          have := String.length_utf8EncodeChar d
          rw [empty] at this
          exact absurd this (Nat.ne_of_lt d.utf8Size_pos)
        · rw [List.getLast?_append, nil] at ends
          obtain rfl : b = UInt8.ofNat c.toNat := by simpa using ends
          exact List.mem_of_getLast? nil
      have code : (UInt8.ofNat c.toNat).toNat = c.toNat := by
        rw [UInt8.toNat_ofNat', Nat.mod_eq_of_lt (by omega)]
      obtain rfl : c = d := by
        rcases mem_utf8EncodeChar last with eq | high
        · exact Char.toNat_inj.mp (code.symm.trans eq)
        · omega
      obtain ⟨s', rfl⟩ := ih (fun x hx => ascii x (by simp [hx]))
        (List.append_cancel_right same)
      exact ⟨s', by simp⟩

end Uplift.Text

namespace Uplift.Scan.Walker

open Files

variable {w : Walker} {t : Tree}

/-! ## Walks -/

/-- Every file that is found below a directory is wanted. -/
theorem wants_of_mem_below {fuel : Nat} {levels : List Level} {open' : List Place} {dir : Place}
    {names names' : List String} {found : List (List String)}
    (ran : w.below t fuel levels open' dir names = .ok found) (member : names' ∈ found) :
    w.wants names' = true := by
  induction fuel generalizing levels open' dir names found with
  | zero => cases ran
  | succ fuel ih =>
    obtain ⟨founds, each, same⟩ := bind_eq_ok_iff.mp ran
    rw [← Except.ok.inj same] at member
    obtain ⟨here, among, member⟩ := List.mem_flatten.mp member
    obtain ⟨⟨name, e⟩, -, entry⟩ := exists_of_mem_mapM each among
    obtain ⟨⟨place, e'⟩, -, entry⟩ := bind_eq_ok_iff.mp entry
    dsimp only at entry
    generalize (if w.standardFilters = true then _ else levels) = levels at entry
    split at entry
    · cases entry
    · split at entry
      · rw [← Except.ok.inj entry] at member
        cases member
      · cases e' with
        | dir => exact ih entry member
        | file content executable =>
          change (if isUtf8 (names ++ [name]) = true then _ else _) = _ at entry
          split at entry
          · by_cases wanted : w.wants (names ++ [name]) = true
            · rw [← Except.ok.inj entry, if_pos wanted, List.mem_singleton] at member
              rwa [member]
            · rw [← Except.ok.inj entry, if_neg wanted] at member
              cases member
          · cases entry
        | link target =>
          rw [← Except.ok.inj entry] at member
          cases member

variable {paths : List (List String)}

/-- A walk that succeeds sorts what it found. -/
theorem exists_of_collect (ran : w.collect t = .ok paths) :
    ∃ levels place found, w.below t (maxDepth t) levels [place] place [] = .ok found ∧
      paths = found.mergeSort namesLe := by
  unfold collect at ran
  split at ran
  · cases ran
  · next place located =>
    dsimp only at ran
    generalize (if w.standardFilters = true then _ else []) = levels at ran
    split at ran
    · obtain ⟨found, below, same⟩ := bind_eq_ok_iff.mp ran
      exact ⟨_, place, found, below, (Except.ok.inj same).symm⟩
    · cases ran

theorem sorted_collect (ran : w.collect t = .ok paths) :
    paths.Pairwise fun a b => namesLe a b = true := by
  obtain ⟨levels, place, found, -, rfl⟩ := exists_of_collect ran
  exact List.pairwise_mergeSort namesLe_trans namesLe_total found

theorem wants_of_mem_collect (ran : w.collect t = .ok paths) {names : List String}
    (member : names ∈ paths) : w.wants names = true := by
  obtain ⟨levels, place, found, below, rfl⟩ := exists_of_collect ran
  exact wants_of_mem_below below (List.mem_mergeSort.mp member)

/-- A file that the glob of a plain name keeps has that name. -/
theorem path_of_wants {name : List Char} (filled : name ≠ []) (ascii : ∀ c ∈ name, c.toNat < 128)
    (glob : w.glob = some [{ glob := .manyNamesFirst :: name.map .exactly }])
    {names : List String} (wanted : w.wants names = true) :
    relative names = String.ofList name ∨
      ∃ lead, relative names = String.ofList (lead ++ '/' :: name) := by
  have kept : Glob.isMatch (.manyNamesFirst :: name.map .exactly) (relative names) = true := by
    unfold wants at wanted
    rw [glob] at wanted
    by_contra other
    simp [Pattern.verdict, Pattern.isMatch, other] at wanted
  rcases (Glob.isMatch_name filled).mp kept with whole | ⟨lead, ending⟩
  · left
    have read := congrArg Text.ofBytes? whole
    rw [Text.ofBytes?_toBytes, Text.ofBytes?_toBytes] at read
    exact Option.some.inj read
  · right
    have slash : [Glob.slash] = String.utf8EncodeChar '/' := rfl
    rw [Text.toBytes_eq_flatMap, Text.toBytes_eq_flatMap, String.toList_ofList,
      ← List.singleton_append, slash, ← List.flatMap_cons] at ending
    obtain ⟨lead', split⟩ := Text.exists_append_of_toBytes
      (List.forall_mem_cons.mpr ⟨by decide, ascii⟩) ending
    exact ⟨lead', by rw [← split, String.ofList_toList]⟩

end Uplift.Scan.Walker
