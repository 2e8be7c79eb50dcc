import Uplift.Proofs.Entries
import Uplift.Yaml.Reader

/-!
# The values of nodes

What the value of a node says about the node. A node replaces a fixed number of aliases, whatever
the budget (`Node.exists_cost`), so that a value that is read with one budget is read with each
larger one (`Node.Reads.mono`). A node whose value is a record can be looked up as a record, and its
fields read as the record's values (`Node.record?_of_reads`).
-/

namespace Uplift.Yaml

/-! ## Scalars -/

/-- A value that a scalar can have under its tag: no collection, and no text
but the scalar's own. -/
def IsScalarOf (text : String) : Value → Prop
  | .seq _ | .map _ | .tagged _ _ => False
  | .str s => s = text
  | _ => True

variable {text : String} {style : Style} {v : Value}

/-- What is no number of another kind is a float or a text. -/
theorem isScalarOf_float? (read : (if isZeroPadded text.toList then some (.str text)
    else match float? text.toList with
      | some bits => some (.float bits)
      | none => some (.str text)) = some v) : IsScalarOf text v := by
  split at read
  · obtain rfl := Option.some.inj read
    rfl
  · split at read
    · obtain rfl := Option.some.inj read
      trivial
    · obtain rfl := Option.some.inj read
      rfl

theorem isScalarOf_plainValue? (read : plainValue? text = some v) : IsScalarOf text v := by
  unfold plainValue? at read
  split at read
  · obtain rfl := Option.some.inj read
    trivial
  split at read
  · obtain rfl := Option.some.inj read
    trivial
  dsimp only at read
  split at read
  · split at read
    · obtain rfl := Option.some.inj read
      trivial
    · split at read
      · cases read
      · exact isScalarOf_float? read
  · exact isScalarOf_float? read

theorem isScalarOf_style
    (read : (if style = .plain then plainValue? text else some (.str text)) = some v) :
    IsScalarOf text v := by
  split at read
  · exact isScalarOf_plainValue? read
  · obtain rfl := Option.some.inj read
    rfl

theorem isScalarOf_coreValue? {tag : String} (read : coreValue? tag text style = some v) :
    IsScalarOf text v := by
  unfold coreValue? at read
  split at read
  · obtain ⟨b, -, rfl⟩ := Option.map_eq_some_iff.mp read
    trivial
  split at read
  · split at read
    · split at read
      · obtain rfl := Option.some.inj read
        trivial
      · cases read
    · cases read
  split at read
  · obtain ⟨bits, -, rfl⟩ := Option.map_eq_some_iff.mp read
    trivial
  split at read
  · split at read
    · obtain rfl := Option.some.inj read
      trivial
    · cases read
  split at read
  · exact isScalarOf_plainValue? read
  · obtain rfl := Option.some.inj read
    rfl

theorem scalarValue?_cases {tag : Option String} (read : scalarValue? tag text style = some v) :
    IsScalarOf text v ∨ ∃ name w, v = .tagged name w ∧ IsScalarOf text w := by
  unfold scalarValue? at read
  split at read
  · split at read
    · obtain ⟨w, means, rfl⟩ := Option.map_eq_some_iff.mp read
      exact .inr ⟨_, w, rfl, isScalarOf_style means⟩
    · exact .inl (isScalarOf_coreValue? read)
  · exact .inl (isScalarOf_style read)

theorem IsScalarOf.untag_eq (scalar : IsScalarOf text v) : v.untag = v := by
  cases v with
  | tagged => exact scalar.elim
  | _ => rfl

namespace Node

variable {depth budget left : Nat} {n : Node} {items : List Node} {vs : List Value}
  {tag : Option String}

/-! ## Budgets -/

theorem value?_scalar_eq_some
    (read : (scalar tag text style).value? depth budget = some (v, left)) :
    scalarValue? tag text style = some v ∧ budget = left := by
  obtain ⟨w, means, same⟩ := Option.map_eq_some_iff.mp read
  obtain ⟨rfl, rfl⟩ := Prod.mk.inj same
  exact ⟨means, rfl⟩

theorem value?_seq_eq_some (read : (seq tag items).value? depth budget = some (v, left)) :
    ∃ vs, v = underTag tag (.seq vs) ∧ depth ≠ 0 ∧
      values? (depth - 1) budget items = some (vs, left) := by
  unfold value? at read
  split at read
  · cases read
  next deep =>
  obtain ⟨⟨vs, rest⟩, inner, same⟩ := Option.bind_eq_some_iff.mp read
  obtain ⟨rfl, rfl⟩ := Prod.mk.inj (Option.some.inj same)
  exact ⟨vs, rfl, deep, inner⟩

theorem value?_map_eq_some {entries : List (Node × Node)}
    (read : (map tag entries).value? depth budget = some (v, left)) :
    ∃ es, v = underTag tag (.map es) ∧ depth ≠ 0 ∧
      entryValues? (depth - 1) budget [] entries = some (es, left) := by
  unfold value? at read
  split at read
  · cases read
  next deep =>
  obtain ⟨⟨es, rest⟩, inner, same⟩ := Option.bind_eq_some_iff.mp read
  obtain ⟨rfl, rfl⟩ := Prod.mk.inj (Option.some.inj same)
  exact ⟨es, rfl, deep, inner⟩

theorem value?_alias_eq_some (read : («alias» (some n)).value? depth budget = some (v, left)) :
    budget ≠ 0 ∧ n.value? depth (budget - 1) = some (v, left) := by
  unfold value? at read
  split at read
  · cases read
  next room => exact ⟨room, read⟩

theorem values?_cons_eq_some (read : values? depth budget (n :: items) = some (vs, left)) :
    ∃ v ws middle, vs = v :: ws ∧ n.value? depth budget = some (v, middle) ∧
      values? depth middle items = some (ws, left) := by
  obtain ⟨⟨v, middle⟩, first, rest⟩ := Option.bind_eq_some_iff.mp read
  obtain ⟨⟨ws, last⟩, others, same⟩ := Option.bind_eq_some_iff.mp rest
  obtain ⟨rfl, rfl⟩ := Prod.mk.inj (Option.some.inj same)
  exact ⟨v, ws, middle, rfl, first, others⟩

theorem entryValues?_cons_eq_some {k : Node} {entries : List (Node × Node)} {seen : List Value}
    {es : List (Value × Value)}
    (read : entryValues? depth budget seen ((k, n) :: entries) = some (es, left)) :
    ∃ key v fs afterKey afterValue, es = (key, v) :: fs ∧ ¬ seen.contains key = true ∧
      k.value? depth budget = some (key, afterKey) ∧
      n.value? depth afterKey = some (v, afterValue) ∧
      entryValues? depth afterValue (key :: seen) entries = some (fs, left) := by
  obtain ⟨⟨key, afterKey⟩, keyRead, rest⟩ := Option.bind_eq_some_iff.mp read
  dsimp only at rest
  split at rest
  · cases rest
  next new =>
  obtain ⟨⟨v, afterValue⟩, valueRead, rest'⟩ := Option.bind_eq_some_iff.mp rest
  obtain ⟨⟨fs, last⟩, others, same⟩ := Option.bind_eq_some_iff.mp rest'
  obtain ⟨rfl, rfl⟩ := Prod.mk.inj (Option.some.inj same)
  exact ⟨key, v, fs, afterKey, afterValue, rfl, new, keyRead, valueRead, others⟩

mutual

/-- A node replaces a fixed number of aliases. -/
theorem exists_cost : ∀ {n : Node} {depth budget left : Nat} {v : Value},
    n.value? depth budget = some (v, left) →
      ∃ cost, budget = cost + left ∧ ∀ more, n.value? depth (cost + more) = some (v, more)
  | .scalar tag text style, depth, budget, left, v => by
    intro read
    obtain ⟨means, rfl⟩ := value?_scalar_eq_some read
    exact ⟨0, (Nat.zero_add _).symm, fun more => by simp [value?, means]⟩
  | .seq tag items, depth, budget, left, v => by
    intro read
    obtain ⟨vs, rfl, deep, inner⟩ := value?_seq_eq_some read
    obtain ⟨cost, total, goesOn⟩ := exists_costs inner
    exact ⟨cost, total, fun more => by simp [value?, deep, goesOn]⟩
  | .map tag entries, depth, budget, left, v => by
    intro read
    obtain ⟨es, rfl, deep, inner⟩ := value?_map_eq_some read
    obtain ⟨cost, total, goesOn⟩ := exists_entryCosts inner
    exact ⟨cost, total, fun more => by simp [value?, deep, goesOn]⟩
  | .alias none, depth, budget, left, v => by
    intro read
    cases read
  | .alias (some n), depth, budget, left, v => by
    intro read
    obtain ⟨room, read⟩ := value?_alias_eq_some read
    obtain ⟨cost, total, goesOn⟩ := exists_cost read
    refine ⟨cost + 1, by omega, fun more => ?_⟩
    rw [value?, if_neg (by omega), show cost + 1 + more - 1 = cost + more by omega]
    exact goesOn more

theorem exists_costs : ∀ {items : List Node} {depth budget left : Nat} {vs : List Value},
    values? depth budget items = some (vs, left) →
      ∃ cost, budget = cost + left ∧
        ∀ more, values? depth (cost + more) items = some (vs, more)
  | [], depth, budget, left, vs => by
    intro read
    obtain ⟨rfl, rfl⟩ := Prod.mk.inj (Option.some.inj read)
    exact ⟨0, (Nat.zero_add _).symm, fun more => by simp [values?]⟩
  | n :: rest, depth, budget, left, vs => by
    intro read
    obtain ⟨v, ws, middle, rfl, first, others⟩ := values?_cons_eq_some read
    obtain ⟨one, rfl, firstOn⟩ := exists_cost first
    obtain ⟨many, rfl, othersOn⟩ := exists_costs others
    refine ⟨one + many, by omega, fun more => ?_⟩
    rw [values?, Nat.add_assoc, firstOn]
    simp [othersOn]

theorem exists_entryCosts : ∀ {entries : List (Node × Node)} {depth budget left : Nat}
    {seen : List Value} {es : List (Value × Value)},
    entryValues? depth budget seen entries = some (es, left) →
      ∃ cost, budget = cost + left ∧
        ∀ more, entryValues? depth (cost + more) seen entries = some (es, more)
  | [], depth, budget, left, seen, es => by
    intro read
    obtain ⟨rfl, rfl⟩ := Prod.mk.inj (Option.some.inj read)
    exact ⟨0, (Nat.zero_add _).symm, fun more => by simp [entryValues?]⟩
  | (k, n) :: rest, depth, budget, left, seen, es => by
    intro read
    obtain ⟨key, v, fs, afterKey, afterValue, rfl, new, keyRead, valueRead, others⟩ :=
      entryValues?_cons_eq_some read
    obtain ⟨one, rfl, keyOn⟩ := exists_cost keyRead
    obtain ⟨two, rfl, valueOn⟩ := exists_cost valueRead
    obtain ⟨many, rfl, othersOn⟩ := exists_entryCosts others
    refine ⟨one + (two + many), by omega, fun more => ?_⟩
    rw [entryValues?, Nat.add_assoc, keyOn]
    show (if seen.contains key then none else _) = _
    rw [if_neg new, Nat.add_assoc, valueOn]
    simp [othersOn]

end

/-- A node has a value if that many collections may open in each other and that many aliases may be
replaced. -/
def Reads (depth budget : Nat) (n : Node) (v : Value) : Prop :=
  ∃ left, n.value? depth budget = some (v, left)

theorem Reads.mono {more : Nat} (reads : n.Reads depth budget v) (enough : budget ≤ more) :
    n.Reads depth more v := by
  obtain ⟨left, read⟩ := reads
  obtain ⟨cost, rfl, goesOn⟩ := exists_cost read
  refine ⟨more - cost, ?_⟩
  have split : cost + (more - cost) = more := by omega
  rw [← goesOn (more - cost), split]

/-- A node and what it stands for, if it is an alias, have the same value. -/
theorem Reads.target : ∀ {n : Node} {budget : Nat}, n.Reads depth budget v →
    ∃ m, n.target? = some m ∧ (∀ t, m ≠ .alias t) ∧ m.Reads depth budget v
  | .scalar _ _ _, _, reads => ⟨_, rfl, nofun, reads⟩
  | .seq _ _, _, reads => ⟨_, rfl, nofun, reads⟩
  | .map _ _, _, reads => ⟨_, rfl, nofun, reads⟩
  | .alias none, _, ⟨_, read⟩ => nomatch read
  | .alias (some n), budget, ⟨left, read⟩ => by
    obtain ⟨-, read⟩ := value?_alias_eq_some read
    obtain ⟨m, leads, proper, reads⟩ := Reads.target ⟨left, read⟩
    exact ⟨m, leads, proper, reads.mono (Nat.sub_le _ _)⟩

/-! ## Texts and sequences -/

theorem underTag_eq_seq {w : Value} (same : underTag tag w = .seq vs) :
    w = .seq vs := by
  unfold underTag at same
  split at same
  · cases same
  · exact same

theorem underTag_eq_map {w : Value} {es : List (Value × Value)}
    (same : underTag tag w = .map es) : w = .map es := by
  unfold underTag at same
  split at same
  · cases same
  · exact same

/-- The value of a scalar that is read is one that a scalar can have. -/
theorem isScalarOf_value?
    (read : (scalar tag text style).value? depth budget = some (v, left)) :
    IsScalarOf text v.untag := by
  rcases scalarValue?_cases (value?_scalar_eq_some read).1 with own | ⟨name, w, rfl, own⟩
  · exact own.untag_eq.symm ▸ own
  · exact own.untag_eq.symm ▸ own

theorem underTag_ne_str (tag : Option String) {w : Value} (proper : ∀ s, w ≠ .str s) (s : String) :
    underTag tag w ≠ .str s := by
  unfold underTag
  split
  · simp
  · exact proper s

theorem text?_of_reads (reads : n.Reads depth budget (.str text)) : n.text? = some text := by
  obtain ⟨m, leads, proper, left, read⟩ := reads.target
  unfold text?
  rw [leads]
  cases m with
  | scalar tag own style =>
    obtain rfl : text = own := isScalarOf_value? read
    rfl
  | seq tag items =>
    obtain ⟨vs, same, -, -⟩ := value?_seq_eq_some read
    exact absurd same.symm (underTag_ne_str tag (by simp) text)
  | map tag entries =>
    obtain ⟨es, same, -, -⟩ := value?_map_eq_some read
    exact absurd same.symm (underTag_ne_str tag (by simp) text)
  | «alias» t => exact absurd rfl (proper t)

/-- The items of a sequence are read one level below it. -/
theorem items?_of_reads (reads : n.Reads depth budget (.seq vs)) : ∃ items left,
    n.items? = some items ∧ values? (depth - 1) budget items = some (vs, left) := by
  obtain ⟨m, leads, proper, left, read⟩ := reads.target
  unfold items?
  rw [leads]
  cases m with
  | scalar tag own style => exact (isScalarOf_value? read).elim
  | seq tag items =>
    obtain ⟨ws, same, -, inner⟩ := value?_seq_eq_some read
    obtain rfl := Value.seq.inj (underTag_eq_seq same.symm)
    exact ⟨items, left, rfl, inner⟩
  | map tag entries =>
    obtain ⟨es, same, -, -⟩ := value?_map_eq_some read
    cases underTag_eq_seq same.symm
  | «alias» t => exact absurd rfl (proper t)

/-! ## Records -/

theorem forall₂_entryValues? : ∀ {entries : List (Node × Node)} {budget left : Nat}
    {seen : List Value} {es : List (Value × Value)},
    entryValues? depth budget seen entries = some (es, left) →
      List.Forall₂ (fun e w => e.1.Reads depth budget w.1 ∧ e.2.Reads depth budget w.2) entries es
  | [], budget, left, seen, es, read => by
    obtain ⟨rfl, rfl⟩ := Prod.mk.inj (Option.some.inj read)
    exact .nil
  | (k, n) :: rest, budget, left, seen, es, read => by
    obtain ⟨key, v, fs, afterKey, afterValue, rfl, -, keyRead, valueRead, others⟩ :=
      entryValues?_cons_eq_some read
    -- What is left for the later ones is at most what there was for the earlier ones.
    obtain ⟨one, first, -⟩ := exists_cost keyRead
    obtain ⟨two, second, -⟩ := exists_cost valueRead
    refine .cons ⟨⟨afterKey, keyRead⟩, Reads.mono ⟨afterValue, valueRead⟩ (by omega)⟩ ?_
    refine (forall₂_entryValues? others).imp fun e w both => ?_
    exact ⟨both.1.mono (by omega), both.2.mono (by omega)⟩

/-- A node that stands for a field's value, under the field's name. -/
def IsField (depth budget : Nat) (e : String × Node) (f : String × Value) : Prop :=
  e.1 = f.1 ∧ e.2.Reads depth budget f.2

theorem keys_of_isField {nodes : List (String × Node)} {fields : List (String × Value)}
    (named : List.Forall₂ (IsField depth budget) nodes fields) :
    nodes.map Prod.fst = fields.map Prod.fst := by
  induction named with
  | nil => rfl
  | cons both _ ih => rw [List.map_cons, List.map_cons, both.1, ih]

theorem fields?_of_reads {names : List String} {entries : List (Node × Node)}
    {fields : List (String × Value)} (known : ∀ f ∈ fields, f.1 ∈ names)
    (distinct : (fields.map Prod.fst).Nodup)
    (reads : List.Forall₂ (fun e f => e.1.text? = some f.1 ∧ e.2.Reads depth budget f.2)
      entries fields) :
    ∃ nodes, fields? names entries = some nodes ∧
      List.Forall₂ (IsField depth budget) nodes fields := by
  induction reads with
  | nil => exact ⟨[], rfl, .nil⟩
  | @cons e f entries fields both _ ih =>
    obtain ⟨key, n⟩ := e
    obtain ⟨new, distinct⟩ := List.nodup_cons.mp distinct
    obtain ⟨nodes, found, named⟩ :=
      ih (fun g member => known g (List.mem_cons_of_mem _ member)) distinct
    rw [← keys_of_isField named] at new
    refine ⟨(f.1, n) :: nodes, ?_, .cons ⟨rfl, both.2⟩ named⟩
    have one : names.contains f.1 = true :=
      List.contains_iff_mem.mpr (known f (List.mem_cons_self ..))
    have text : key.text? = some f.1 := both.1
    rw [fields?, text, found]
    show (if names.contains f.1 then _ else _) = _
    rw [if_pos one, if_neg (Entries.not_any_of_notMem new)]

theorem lookup_of_isField {name : String} {nodes : List (String × Node)}
    {fields : List (String × Value)}
    (named : List.Forall₂ (IsField depth budget) nodes fields) :
    Option.Rel (Reads depth budget) (nodes.lookup name) (fields.lookup name) := by
  induction named with
  | nil => exact .none
  | @cons e f _ _ both _ ih =>
    obtain ⟨key, n⟩ := e
    obtain ⟨key', w⟩ := f
    obtain ⟨rfl, reads⟩ := both
    rw [List.lookup_cons, List.lookup_cons]
    cases name == key with
    | true => exact .some reads
    | false => exact ih

/-- A node whose value is a record is looked up as that record: each field is there with a node that
reads as its value, or it is missing in both. -/
theorem record?_of_reads {names : List String} {fields : List (String × Value)}
    (known : ∀ f ∈ fields, f.1 ∈ names) (distinct : (fields.map Prod.fst).Nodup)
    (reads : n.Reads depth budget (.record fields)) :
    ∃ nodes, n.record? names = some nodes ∧ ∀ name,
      Option.Rel (Reads (depth - 1) budget) (nodes.lookup name) (fields.lookup name) := by
  obtain ⟨m, leads, proper, left, read⟩ := reads.target
  cases m with
  | scalar tag own style => exact (isScalarOf_value? read).elim
  | seq tag items =>
    obtain ⟨vs, same, -, -⟩ := value?_seq_eq_some read
    cases underTag_eq_map same.symm
  | «alias» t => exact absurd rfl (proper t)
  | map tag entries =>
    obtain ⟨es, same, -, inner⟩ := value?_map_eq_some read
    obtain rfl := Value.map.inj (underTag_eq_map same.symm)
    have texts : List.Forall₂ (fun e (f : String × Value) => e.1.text? = some f.1 ∧
        e.2.Reads (depth - 1) budget f.2) entries fields := by
      refine (List.forall₂_map_right_iff.mp (forall₂_entryValues? inner)).imp fun e f both => ?_
      exact ⟨text?_of_reads both.1, both.2⟩
    obtain ⟨nodes, found, named⟩ := fields?_of_reads known distinct texts
    refine ⟨nodes, ?_, fun name => lookup_of_isField named⟩
    unfold record?
    rw [leads]
    exact found

end Node

end Uplift.Yaml
