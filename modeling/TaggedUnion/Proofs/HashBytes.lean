import TaggedUnion.Proofs.DispatchHistory
import TaggedUnion.Proofs.TagInvariant

/-!
# Equality and the bytes for a hasher

Two values of a hashable type are equal exactly if they feed the same bytes to a hasher, and the
bytes of one are never continued by those of another. The second direction and the absence of
continuations follow from one property of types: whatever stands after the bytes of a value, the
bytes tell the value up to equality and where they end. It is carried along the grammar of types.
-/

set_option autoImplicit false

namespace TaggedUnion

open Registry

/-! ## Words of fixed length -/

namespace IntType

@[simp] theorem length_lowBytes (count word : Nat) : (lowBytes count word).length = count := by
  induction count generalizing word with
  | zero => rfl
  | succ count ih => simp only [lowBytes, List.length_cons, ih]

theorem lowBytes_inj {count left right : Nat} (leftBelow : left < 256 ^ count)
    (rightBelow : right < 256 ^ count) (same : lowBytes count left = lowBytes count right) :
    left = right := by
  induction count generalizing left right with
  | zero =>
      rw [Nat.pow_zero] at leftBelow rightBelow
      omega
  | succ count ih =>
      rw [Nat.pow_succ] at leftBelow rightBelow
      obtain ⟨lowest, rest⟩ := List.cons.inj same
      have low : left % 256 = right % 256 := by simpa using congrArg UInt8.toNat lowest
      have high : left / 256 = right / 256 := ih (by omega) (by omega) rest
      omega

theorem littleEndian_inj {kind : IntType} {left right : Int} (leftHeld : kind.Holds left)
    (rightHeld : kind.Holds right) (same : kind.littleEndian left = kind.littleEndian right) :
    left = right := by
  have positive := span_pos kind
  have lower (number : Int) : 0 ≤ number % kind.span := Int.emod_nonneg number (by omega)
  have below (number : Int) : (number % kind.span).toNat < 256 ^ kind.bytes := by
    have upper := Int.emod_lt_of_pos number (b := kind.span) (by omega)
    change _ < kind.span
    omega
  have words := lowBytes_inj (below left) (below right) same
  have rests : left % kind.span = right % kind.span := by
    have := lower left
    have := lower right
    omega
  have multiple : (kind.span : Int) ∣ left - right :=
    Int.dvd_of_emod_eq_zero (Int.emod_eq_emod_iff_emod_sub_eq_zero.mp rests)
  have near : |left - right| < kind.span := by
    unfold Holds least greatest at leftHeld rightHeld
    rw [abs_lt]
    cases sign : kind.signed <;>
      simp only [sign, if_true, Bool.false_eq_true, if_false] at leftHeld rightHeld <;> omega
  exact Int.sub_eq_zero.mp (Int.eq_zero_of_abs_lt_dvd multiple near)

/-- Two words of one length in front of more bytes. -/
theorem littleEndian_append_inj {kind : IntType} {left right : Int} (leftHeld : kind.Holds left)
    (rightHeld : kind.Holds right) {after after' : List UInt8}
    (same : kind.littleEndian left ++ after = kind.littleEndian right ++ after') :
    left = right ∧ after = after' := by
  obtain ⟨words, rest⟩ := List.append_inj same (by simp only [littleEndian, length_lowBytes])
  exact ⟨littleEndian_inj leftHeld rightHeld words, rest⟩

end IntType

/-! ## Texts up to their last byte -/

/-- Lists that end with an item found nowhere else in them. -/
theorem List.append_end_inj {Item : Type} {final : Item} {left right after after' : List Item}
    (leftOpen : final ∉ left) (rightOpen : final ∉ right)
    (same : left ++ final :: after = right ++ final :: after') : left = right ∧ after = after' := by
  rcases List.append_eq_append_iff.mp same with ⟨more, rfl, rest⟩ | ⟨more, rfl, rest⟩
  · cases more with
    | nil => exact ⟨(List.append_nil _).symm, (List.cons.inj rest).2⟩
    | cons first more =>
        obtain ⟨rfl, -⟩ := List.cons.inj rest
        exact absurd (List.mem_append_right _ List.mem_cons_self) rightOpen
  · cases more with
    | nil => exact ⟨List.append_nil _, (List.cons.inj rest).2.symm⟩
    | cons first more =>
        obtain ⟨rfl, -⟩ := List.cons.inj rest
        exact absurd (List.mem_append_right _ List.mem_cons_self) leftOpen

namespace Leaf

theorem final_not_mem_utf8EncodeChar (letter : Char) : 0xff ∉ String.utf8EncodeChar letter := by
  have below : ∀ byte ∈ String.utf8EncodeChar letter, byte.toNat < 0xff := by
    unfold String.utf8EncodeChar
    dsimp only
    split_ifs <;>
      simp only [List.mem_cons, List.not_mem_nil, or_false, forall_eq_or_imp, forall_eq,
        UInt8.toNat_ofNat'] <;>
      omega
  intro member
  exact absurd (below _ member) (by decide)

theorem textBytes_append_inj {left right : String} {after after' : List UInt8}
    (same : textBytes left ++ after = textBytes right ++ after') : left = right ∧ after = after' := by
  have unended (text : String) : 0xff ∉ text.toList.flatMap String.utf8EncodeChar := by
    intro member
    obtain ⟨letter, -, inside⟩ := List.mem_flatMap.mp member
    exact final_not_mem_utf8EncodeChar letter inside
  unfold textBytes at same
  rw [List.append_assoc, List.append_assoc] at same
  obtain ⟨bytes, rest⟩ := List.append_end_inj (unended left) (unended right) same
  have encoded : left.toList.utf8Encode = right.toList.utf8Encode := congrArg List.toByteArray bytes
  rw [String.utf8Encode_toList, String.utf8Encode_toList] at encoded
  exact ⟨String.toByteArray_inj.mp encoded, rest⟩

end Leaf

/-! ## Equal values feed the same bytes -/

@[simp] theorem Verdict.andThen_equal (first second : Verdict) :
    (first.andThen second).equal = (first.equal && second.equal) := by
  unfold Verdict.andThen
  cases first with
  | mk equal events => cases equal <;> rfl

theorem Leaf.hashBytes_eq {left right : Leaf} (equal : (left.compare right).equal = true) :
    left.hashBytes = right.hashBytes := by
  cases left <;> cases right <;>
    simp_all [Leaf.compare, Leaf.equal, Leaf.hashBytes, Verdict.quiet]

namespace Datum

mutual

theorem hashBytes_eq : (left right : Datum) → (left.compare right).equal = true →
    left.hashBytes = right.hashBytes
  | .leaf left, right, equal => by
      cases right <;> simp only [compare, Verdict.quiet, Bool.false_eq_true] at equal
      simpa only [hashBytes] using Leaf.hashBytes_eq equal
  | .list lefts, right, equal => by
      cases right <;> simp only [compare, Verdict.quiet, Bool.false_eq_true] at equal
      rename_i rights
      split at equal
      · rename_i lengths
        simp only [hashBytes, lengths, allHashBytes_eq lefts rights lengths equal]
      · cases equal
  | .none, right, equal => by
      cases right <;> simp only [compare, Verdict.quiet, Bool.false_eq_true] at equal
      rfl
  | .some left, right, equal => by
      cases right <;> simp only [compare, Verdict.quiet, Bool.false_eq_true] at equal
      simp only [hashBytes, hashBytes_eq left _ equal]
  | .pair first second, right, equal => by
      cases right <;> simp only [compare, Verdict.quiet, Bool.false_eq_true] at equal
      obtain ⟨firsts, seconds⟩ := Bool.and_eq_true_iff.mp (Verdict.andThen_equal _ _ ▸ equal)
      simp only [hashBytes, hashBytes_eq first _ firsts, hashBytes_eq second _ seconds]
  | .record _ left, right, equal => by
      cases right <;> simp only [compare, Verdict.quiet, Bool.false_eq_true] at equal
      simp only [hashBytes, hashBytes_eq left _ equal]
  | .variant index left, right, equal => by
      cases right <;> simp only [compare, Verdict.quiet, Bool.false_eq_true] at equal
      split at equal
      · rename_i same
        simp only [hashBytes, same, hashBytes_eq left _ equal]
      · cases equal

theorem allHashBytes_eq : (lefts rights : List Datum) → lefts.length = rights.length →
    (compareAll lefts rights).equal = true → allHashBytes lefts = allHashBytes rights
  | [], [], _, _ => rfl
  | [], _ :: _, lengths, _ => nomatch lengths
  | _ :: _, [], lengths, _ => nomatch lengths
  | left :: lefts, right :: rights, lengths, equal => by
      unfold compareAll at equal
      obtain ⟨first, rest⟩ := Bool.and_eq_true_iff.mp (Verdict.andThen_equal _ _ ▸ equal)
      simp only [allHashBytes, hashBytes_eq left right first,
        allHashBytes_eq lefts rights (Nat.succ.inj lengths) rest]

end

end Datum

/-! ## The bytes tell the value and where it ends -/

theorem Leaf.hashBytes_append_inj {left right : Leaf} {type : Ty} (hashable : type.hashable = true)
    (leftHeld : left.HasType type) (rightHeld : right.HasType type) {after after' : List UInt8}
    (same : left.hashBytes ++ after = right.hashBytes ++ after') :
    left.equal right = true ∧ after = after' := by
  cases type <;> cases left <;> try exact absurd leftHeld id
  all_goals cases right <;> try exact absurd rightHeld id
  case float.float.float => cases hashable
  case unit.unit.unit => exact ⟨rfl, same⟩
  case int.int.int kind left number right number' =>
    obtain ⟨rfl, held⟩ := leftHeld
    obtain ⟨rfl, held'⟩ := rightHeld
    obtain ⟨rfl, rest⟩ := IntType.littleEndian_append_inj held held' same
    exact ⟨beq_self_eq_true _, rest⟩
  case bool.bool.bool truth truth' =>
    obtain ⟨byte, rest⟩ := List.cons.inj same
    refine ⟨?_, rest⟩
    cases truth <;> cases truth' <;> first | rfl | exact absurd byte (by decide)
  case char.char.char letter letter' =>
    obtain ⟨codes, rest⟩ := IntType.littleEndian_append_inj (IntType.holds_letter letter)
      (IntType.holds_letter letter') same
    obtain rfl := Char.toNat_inj.mp (Int.ofNat.inj codes)
    exact ⟨beq_self_eq_true _, rest⟩
  case string.string.string | fixedText.fixedText.fixedText =>
    obtain ⟨rfl, rest⟩ := Leaf.textBytes_append_inj same
    exact ⟨beq_self_eq_true _, rest⟩
  case empty.empty.empty slot left right =>
    obtain rfl : left = slot := leftHeld
    obtain rfl : right = left := rightHeld
    exact ⟨beq_self_eq_true _, same⟩
  case tracked.tracked.tracked kind left id number right id' number' =>
    obtain ⟨rfl, rest⟩ := IntType.littleEndian_append_inj leftHeld.2 rightHeld.2 same
    exact ⟨beq_self_eq_true _, rest⟩

theorem Leaf.compare_equal (left right : Leaf) : (left.compare right).equal = left.equal right := by
  unfold Leaf.compare
  split <;> rfl

namespace Datum

mutual

/-- A word of 64 bits holds the length of each list in the value, as it does for lists in memory. -/
def Countable : Datum → Prop
  | .leaf _ | .none => True
  | .list items => items.length < IntType.u64.span ∧ AllCountable items
  | .some content | .record _ content | .variant _ content => content.Countable
  | .pair first second => first.Countable ∧ second.Countable

def AllCountable : List Datum → Prop
  | [] => True
  | item :: items => item.Countable ∧ AllCountable items

end

/-- Longer lists could not be told apart: markers feed nothing, and the word for the length wraps. -/
theorem hashBytes_replicate_empty (slot : Nat) :
    (list (List.replicate IntType.u64.span (leaf (.empty slot)))).hashBytes = (list []).hashBytes := by
  have silent (count : Nat) : allHashBytes (List.replicate count (leaf (.empty slot))) = [] := by
    induction count with
    | zero => rfl
    | succ count ih =>
        rw [List.replicate_succ, allHashBytes, ih]
        rfl
  have wrapped : IntType.u64.littleEndian IntType.u64.span = IntType.u64.littleEndian 0 := by
    rw [IntType.littleEndian, IntType.littleEndian, Int.emod_self, Int.zero_emod]
  rw [hashBytes, hashBytes, silent, List.length_replicate, wrapped]
  rfl

theorem length_holds {items : List Datum} (countable : items.length < IntType.u64.span) :
    IntType.u64.Holds items.length := by
  have bounds : IntType.u64.least = 0 ∧ IntType.u64.greatest = (IntType.u64.span : Int) - 1 := ⟨rfl, rfl⟩
  unfold IntType.Holds
  omega

theorem allHashBytes_append_inj {lefts rights : List Datum} {after after' : List UInt8}
    (each : ∀ left ∈ lefts, ∀ right ∈ rights, left.Countable → right.Countable →
      ∀ {after after' : List UInt8}, left.hashBytes ++ after = right.hashBytes ++ after' →
        (left.compare right).equal = true ∧ after = after')
    (lengths : lefts.length = rights.length) (leftCountable : AllCountable lefts)
    (rightCountable : AllCountable rights)
    (same : allHashBytes lefts ++ after = allHashBytes rights ++ after') :
    (compareAll lefts rights).equal = true ∧ after = after' := by
  induction lefts generalizing rights with
  | nil =>
      obtain rfl := List.length_eq_zero_iff.mp lengths.symm
      exact ⟨rfl, same⟩
  | cons left lefts ih =>
      cases rights with
      | nil => cases lengths
      | cons right rights =>
          simp only [AllCountable] at leftCountable rightCountable
          simp only [allHashBytes, List.append_assoc] at same
          obtain ⟨first, others⟩ := each left List.mem_cons_self right List.mem_cons_self
            leftCountable.1 rightCountable.1 same
          obtain ⟨rest, afterwards⟩ := ih
            (fun left inLeft right inRight => each left (List.mem_cons_of_mem _ inLeft) right
              (List.mem_cons_of_mem _ inRight))
            (Nat.succ.inj lengths) leftCountable.2 rightCountable.2 others
          exact ⟨by simp only [compareAll, Verdict.andThen_equal, first, rest, Bool.and_true],
            afterwards⟩

/-- Whatever stands after the bytes of a value, they tell the value up to equality and where they
end. -/
theorem Typed.hashBytes_append_inj {left right : Datum} {type : Ty} (leftTyped : left.Typed type)
    (rightTyped : right.Typed type) (hashable : type.hashable = true)
    (leftCountable : left.Countable) (rightCountable : right.Countable) {after after' : List UInt8}
    (same : left.hashBytes ++ after = right.hashBytes ++ after') :
    (left.compare right).equal = true ∧ after = after' := by
  induction leftTyped generalizing right after after' with
  | leaf held =>
      obtain ⟨leaf, rfl⟩ := rightTyped.leaf_inv held
      obtain ⟨held'⟩ := rightTyped
      simp only [Datum.compare, Leaf.compare_equal]
      simp only [hashBytes] at same
      exact Leaf.hashBytes_append_inj hashable held held' same
  | @list lefts _ _ ih =>
      obtain ⟨rights, rfl, each⟩ := rightTyped.list_inv
      simp only [Ty.hashable] at hashable
      simp only [Countable] at leftCountable rightCountable
      simp only [hashBytes, List.append_assoc] at same
      obtain ⟨counts, items⟩ := IntType.littleEndian_append_inj (length_holds leftCountable.1)
        (length_holds rightCountable.1) same
      have lengths : lefts.length = rights.length := Int.ofNat.inj counts
      simp only [Datum.compare, if_pos lengths]
      exact allHashBytes_append_inj (fun left inLeft right inRight countable countable' _ _ bytes =>
        ih left inLeft (each right inRight) hashable countable countable' bytes) lengths
        leftCountable.2 rightCountable.2 items
  | none =>
      rcases rightTyped.option_inv with rfl | ⟨content, rfl, -⟩
      · exact ⟨rfl, List.append_cancel_left same⟩
      · exact absurd (List.cons.inj same).1 (by decide)
  | some _ ih =>
      rcases rightTyped.option_inv with rfl | ⟨content, rfl, contentTyped⟩
      · exact absurd (List.cons.inj same).1 (by decide)
      · simp only [Ty.hashable] at hashable
        simp only [Countable] at leftCountable rightCountable
        simp only [hashBytes, List.append_assoc] at same
        exact ih contentTyped hashable leftCountable rightCountable (List.append_cancel_left same)
  | pair _ _ firstIH secondIH =>
      obtain ⟨first, second, rfl, firstTyped, secondTyped⟩ := rightTyped.pair_inv
      simp only [Ty.hashable, Bool.and_eq_true] at hashable
      simp only [Countable] at leftCountable rightCountable
      simp only [hashBytes, List.append_assoc] at same
      obtain ⟨firsts, others⟩ := firstIH firstTyped hashable.1 leftCountable.1 rightCountable.1 same
      obtain ⟨seconds, afterwards⟩ :=
        secondIH secondTyped hashable.2 leftCountable.2 rightCountable.2 others
      exact ⟨by simp only [Datum.compare, Verdict.andThen_equal, firsts, seconds, Bool.and_true],
        afterwards⟩
  | record => cases hashable
  | variant short found _ ih =>
      obtain ⟨index, content, type, rfl, -, found', contentTyped⟩ := rightTyped.variant_inv
      simp only [Ty.hashable, Ty.allHashable_eq_all] at hashable
      simp only [Countable] at leftCountable rightCountable
      obtain ⟨tags, contents⟩ := List.cons.inj same
      obtain rfl := (tagOf_inj (typeAt?_short short found) (typeAt?_short short found')).mp tags
      obtain rfl := Option.some.inj (found.symm.trans found')
      simp only [Datum.compare, if_true]
      exact ih contentTyped (List.all_eq_true.mp hashable _ (typeAt?_mem found)) leftCountable
        rightCountable contents

section

variable {left right : Datum} {type : Ty} (leftTyped : left.Typed type) (rightTyped : right.Typed type)
  (hashable : type.hashable = true) (leftCountable : left.Countable) (rightCountable : right.Countable)

include leftTyped rightTyped hashable leftCountable rightCountable

theorem Typed.equal_iff_hashBytes_eq :
    (left.compare right).equal = true ↔ left.hashBytes = right.hashBytes := by
  constructor
  · exact hashBytes_eq left right
  · intro same
    have ended : left.hashBytes ++ [] = right.hashBytes ++ [] := by rw [same]
    exact (leftTyped.hashBytes_append_inj rightTyped hashable leftCountable rightCountable ended).1

theorem Typed.hashBytes_eq_of_prefix (begins : left.hashBytes <+: right.hashBytes) :
    left.hashBytes = right.hashBytes := by
  obtain ⟨rest, continued⟩ := begins
  have ended : left.hashBytes ++ rest = right.hashBytes ++ [] := by rw [continued, List.append_nil]
  obtain ⟨-, rfl⟩ :=
    leftTyped.hashBytes_append_inj rightTyped hashable leftCountable rightCountable ended
  rwa [List.append_nil] at continued

end

end Datum

/-! ## Unions whose tags are in step -/

namespace Stored.WellFormed

theorem exists_data {type : Ty} {items : List Stored}
    (each : ∀ item ∈ items, ∃ value : Datum, value.Typed type ∧ ofDatum value = item) :
    ∃ values : List Datum, (∀ value ∈ values, value.Typed type) ∧ ofData values = items := by
  induction items with
  | nil => exact ⟨[], List.forall_mem_nil _, rfl⟩
  | cons item items ih =>
      obtain ⟨value, typed, rfl⟩ := each item List.mem_cons_self
      obtain ⟨values, typedAll, rfl⟩ := ih fun item member => each item (List.mem_cons_of_mem _ member)
      exact ⟨value :: values, List.forall_mem_cons.mpr ⟨typed, typedAll⟩, rfl⟩

/-- What is well formed in storage is the stored form of a typed plain value. -/
theorem exists_datum {type : Ty} {stored : Stored} (formed : stored.WellFormed type) :
    ∃ value : Datum, value.Typed type ∧ ofDatum value = stored := by
  induction formed with
  | @leaf type value held => exact ⟨.leaf value, .leaf held, rfl⟩
  | list _ ih =>
      obtain ⟨values, typed, rfl⟩ := exists_data ih
      exact ⟨.list values, .list typed, rfl⟩
  | none => exact ⟨.none, .none, rfl⟩
  | some _ ih =>
      obtain ⟨content, typed, rfl⟩ := ih
      exact ⟨.some content, .some typed, rfl⟩
  | pair _ _ firstIH secondIH =>
      obtain ⟨first, firstTyped, rfl⟩ := firstIH
      obtain ⟨second, secondTyped, rfl⟩ := secondIH
      exact ⟨.pair first second, .pair firstTyped secondTyped, rfl⟩
  | @record label _ _ _ ih =>
      obtain ⟨content, typed, rfl⟩ := ih
      exact ⟨.record label content, .record typed, rfl⟩
  | @variant types type tag value short _ found _ ih =>
      obtain ⟨content, typed, rfl⟩ := ih
      exact ⟨.variant tag.toNat content, .variant short found typed,
        by simp only [ofDatum, tagOf_toNat]⟩

end Stored.WellFormed

theorem Tagged.WellFormed.exists_choice {types : List Ty} {union : Tagged}
    (formed : union.WellFormed types) : ∃ choice : Choice, choice.Typed types ∧ choice.stored = union := by
  obtain ⟨value, typed, stored⟩ := Stored.WellFormed.exists_datum formed
  obtain ⟨index, content, type, rfl, short, found, contentTyped⟩ := typed.variant_inv
  simp only [Stored.ofDatum, Stored.variant.injEq] at stored
  refine ⟨⟨index, content⟩, Choice.typed_of short found contentTyped, ?_⟩
  rw [Choice.stored, Tagged.place, stored.1, stored.2]

/-- Two unions over a list of hashable alternatives are equal exactly if they feed the same bytes to
a hasher, and the bytes of one are a beginning of those of the other only if they are the same. -/
theorem Tagged.equal_iff_hash_eq {types : List Ty} (hashable : Ty.allHashable types = true)
    {left right : Tagged} (leftFormed : left.WellFormed types) (rightFormed : right.WellFormed types)
    {value value' : Datum} (leftViewed : left.view types = .ok value)
    (rightViewed : right.view types = .ok value') (leftCountable : value.Countable)
    (rightCountable : value'.Countable) :
    ∃ verdict hashed hashed', Tagged.compare types left right = .ok verdict ∧
      Tagged.hash types left = .ok hashed ∧ Tagged.hash types right = .ok hashed' ∧
      (verdict.equal = true ↔ hashed.bytes = hashed'.bytes) ∧
      (hashed.bytes <+: hashed'.bytes → hashed.bytes = hashed'.bytes) := by
  obtain ⟨choice, typed, rfl⟩ := leftFormed.exists_choice
  obtain ⟨choice', typed', rfl⟩ := rightFormed.exists_choice
  cases typed.view_stored.1.symm.trans leftViewed
  cases typed'.view_stored.1.symm.trans rightViewed
  refine ⟨_, _, _, typed.compare_stored typed', typed.hash_stored, typed'.hash_stored, ?_, ?_⟩
  · exact Datum.Typed.equal_iff_hashBytes_eq typed typed' hashable leftCountable rightCountable
  · exact Datum.Typed.hashBytes_eq_of_prefix typed typed' hashable leftCountable rightCountable

/-- Two lists with a tracked leaf each, of which one is a copy of the other. -/
theorem Tagged.equal_iff_hash_eq_of_copies :
    ∃ verdict hashed hashed',
      Tagged.compare [.bool, .list (.tracked 0)] (Choice.mk 1 (.list [.leaf (.tracked 0 4 (-2))])).stored
        (Choice.mk 1 (.list [.leaf (.tracked 0 9 (-2))])).stored = .ok verdict ∧
      Tagged.hash [.bool, .list (.tracked 0)]
        (Choice.mk 1 (.list [.leaf (.tracked 0 4 (-2))])).stored = .ok hashed ∧
      Tagged.hash [.bool, .list (.tracked 0)]
        (Choice.mk 1 (.list [.leaf (.tracked 0 9 (-2))])).stored = .ok hashed' ∧
      (verdict.equal = true ↔ hashed.bytes = hashed'.bytes) ∧
      (hashed.bytes <+: hashed'.bytes → hashed.bytes = hashed'.bytes) := by
  have typed (id : Nat) :
      (Choice.mk 1 (.list [.leaf (.tracked 0 id (-2))])).Typed [.bool, .list (.tracked 0)] := by
    refine Choice.typed_of (by decide) rfl (.list fun item member => ?_)
    obtain rfl := List.mem_singleton.mp member
    exact .leaf ⟨rfl, by decide⟩
  have short : 1 < IntType.u64.span := by decide
  have countable (id : Nat) : (Datum.list [.leaf (.tracked 0 id (-2))]).Countable :=
    ⟨short, trivial, trivial⟩
  exact Tagged.equal_iff_hash_eq rfl (typed 4).wellFormed (typed 9).wellFormed (typed 4).view_stored.1
    (typed 9).view_stored.1 (countable 4) (countable 9)

end TaggedUnion
