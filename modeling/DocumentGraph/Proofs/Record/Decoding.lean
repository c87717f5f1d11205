import DocumentGraph.Proofs.Record.Codec
import DocumentGraph.Graph.Cascade
set_option autoImplicit false

/-!
# What decodes

Most decoders reverse an encoding: they take what it gives and nothing else. So a member that is read
is known from the record: one that is required is there, encoded, and one that may be left out is there
or is missing or null. Members that the record does not know do not matter.
-/

namespace DocumentGraph

variable {α : Type}

theorem bind_eq_ok {ε β : Type} {x : Except ε α} {f : α → Except ε β} {b : β} :
    (x >>= f) = .ok b ↔ ∃ a, x = .ok a ∧ f a = .ok b := by
  cases x <;> simp [bind, Except.bind]

namespace Decoder

variable {d : Decoder α} {encode : α → Json} {key : String} {ms : List (String × Json)}

/-- The decoder takes what is encoded and nothing else. -/
def Reverses (d : Decoder α) (encode : α → Json) : Prop := ∀ j a, d j = .ok a ↔ j = encode a

theorem string_reverses : Reverses string .string := fun _ _ => string_eq_ok

theorem members_reverses : Reverses members .object := fun _ _ => members_eq_ok

theorem integer_eq_ok {expected : String} {ofInt? : Int → Option α} {j : Json} {a : α} :
    integer expected ofInt? j = .ok a ↔
      ∃ i low high, j = .number (.int i low high) ∧ ofInt? i = some a := by
  unfold integer
  split
  · next i low high =>
    cases h : ofInt? i <;> simp [h, low, high]
  · next hj =>
    refine iff_of_false (by simp) ?_
    rintro ⟨i, low, high, rfl, -⟩
    exact hj i low high rfl

theorem int64_reverses : Reverses int64 fun t => .number (.ofInt64 t) := by
  intro j t
  refine ⟨fun h => ?_, ?_⟩
  · obtain ⟨i, low, high, rfl, hi⟩ := integer_eq_ok.mp h
    split at hi
    · next hlt =>
      cases hi
      have htoInt : (Int64.ofInt i).toInt = i := Int64.toInt_ofInt_of_le low hlt
      simp only [Number.ofInt64, htoInt]
    · cases hi
  · rintro rfl
    exact int64_ofInt64 t

theorem uint64_reverses : Reverses uint64 fun n => .number (.ofUInt64 n) := by
  intro j n
  refine ⟨fun h => ?_, ?_⟩
  · obtain ⟨i, low, high, rfl, hi⟩ := integer_eq_ok.mp h
    split at hi
    · next hnonneg =>
      cases hi
      have htoNat : ((UInt64.ofNat i.toNat).toNat : Int) = i := by
        have hlt : i.toNat < UInt64.size := (Int.toNat_lt hnonneg).mpr high
        rw [UInt64.toNat_ofNat_of_lt' hlt, Int.toNat_of_nonneg hnonneg]
      simp only [Number.ofUInt64, htoNat]
    · cases hi
  · rintro rfl
    exact uint64_ofUInt64 n

theorem uint32_ofUInt32 (n : UInt32) : uint32 (.number (.ofUInt32 n)) = .ok n := by
  -- By way of `integer_eq_ok`: the kernel must not unfold the test of an unknown number.
  have hrange : (0 : Int) ≤ n.toNat ∧ (n.toNat : Int) < 4294967296 :=
    ⟨Int.natCast_nonneg _, by have := n.toNat_lt; omega⟩
  refine integer_eq_ok.mpr ⟨n.toNat, by omega, by omega, by rw [Number.ofUInt32], ?_⟩
  rw [if_pos hrange, Int.toNat_natCast, UInt32.ofNat_toNat]

theorem uint32_reverses : Reverses uint32 fun n => .number (.ofUInt32 n) := by
  intro j n
  refine ⟨fun h => ?_, ?_⟩
  · obtain ⟨i, low, high, rfl, hi⟩ := integer_eq_ok.mp h
    split at hi
    · next hrange =>
      cases hi
      have hlt : i.toNat < UInt32.size := by
        rw [Int.toNat_lt hrange.1, UInt32.size]
        exact hrange.2
      have htoNat : ((UInt32.ofNat i.toNat).toNat : Int) = i := by
        rw [UInt32.toNat_ofNat_of_lt' hlt, Int.toNat_of_nonneg hrange.1]
      simp only [Number.ofUInt32, htoNat]
    · cases hi
  · rintro rfl
    exact uint32_ofUInt32 n

theorem Reverses.each_eq_ok (h : Reverses d encode) {items : List Json} {list : List α} :
    each d items = .ok list ↔ items = list.map encode := by
  induction items generalizing list with
  | nil => cases list <;> simp [each]
  | cons j rest ih =>
    simp only [each, bind_eq_ok, h j, ih]
    cases list <;> simp

theorem texts_reverses : Reverses (list string) textsJson := by
  intro j texts
  cases j with
  | array items =>
    change each string items = .ok texts ↔ _
    rw [string_reverses.each_eq_ok, textsJson, Json.array.injEq]
  | _ => simp [list, textsJson]

theorem Reverses.optional_eq_ok (h : Reverses d encode) (hnull : ∀ a, (encode a).isNull = false)
    {j : Json} {o : Option α} :
    optional d j = .ok o ↔ unlessNull (some j) = o.map encode := by
  have htaken (hj : j.isNull = false) :
      (d j).map some = .ok o ↔ unlessNull (some j) = o.map encode := by
    have hkept : unlessNull (some j) = some j := by simp [unlessNull, hj]
    rw [hkept]
    cases o with
    | none => cases d j <;> simp [Except.map]
    | some a =>
      have hd : (d j).map some = .ok (some a) ↔ d j = .ok a := by cases d j <;> simp [Except.map]
      rw [hd, h j a, Option.map_some, Option.some.injEq]
  cases j with
  | null =>
    have hne (a : α) : Json.null ≠ encode a := fun ha => by
      have hfalse := hnull a
      rw [← ha] at hfalse
      cases hfalse
    cases o <;> simp [optional, unlessNull, Json.isNull, hne]
  | _ => exact htaken rfl

theorem Reverses.required (h : Reverses d encode) {a : α} :
    requiredMember key d ms = .ok a ↔ Json.lookup key ms = some (encode a) := by
  unfold requiredMember
  cases Json.lookup key ms with
  | none => simp
  | some j => simp [h j a]

theorem Reverses.memberIfSet (h : Reverses d encode) (hnull : ∀ a, (encode a).isNull = false)
    {o : Option α} :
    optionalMember key d ms = .ok o ↔ unlessNull (Json.lookup key ms) = o.map encode := by
  unfold optionalMember
  cases Json.lookup key ms with
  | none => cases o <;> simp [unlessNull]
  | some j => exact h.optional_eq_ok hnull

theorem optionalText {o : Option String} : optionalMember key string ms = .ok o ↔
    unlessNull (Json.lookup key ms) = o.map .string :=
  string_reverses.memberIfSet fun _ => rfl

theorem optionalTexts {o : Option (List String)} : optionalMember key (list string) ms = .ok o ↔
    unlessNull (Json.lookup key ms) = o.map textsJson :=
  texts_reverses.memberIfSet fun _ => rfl

theorem payload {o : Option Json} :
    optionalMember key any ms = .ok o ↔ unlessNull (Json.lookup key ms) = o := by
  rw [optionalMember_any rfl, Except.ok.injEq]

theorem probe_of_ok {j : Json} {a : α} (h : d j = .ok a) : probe d j = .ok () := by
  rw [probe, h]
  rfl

theorem probe_of_required {a : α} (h : requiredMember key d ms = .ok a) {j : Json}
    (hj : Json.lookup key ms = some j) : probe d j = .ok () := by
  rw [requiredMember_of_lookup hj] at h
  exact probe_of_ok h

theorem probe_of_optional {o : Option α} (h : optionalMember key d ms = .ok o) {j : Json}
    (hj : Json.lookup key ms = some j) : probe (optional d) j = .ok () := by
  rw [optionalMember, hj] at h
  exact probe_of_ok h

end Decoder

namespace Cascade

/-- The value names the kind, as a text or as the only key of an object with null under it. -/
def IsNamedBy (k : Cascade) (j : Json) : Prop := j = k.toJson ∨ j = .object [(k.name, .null)]

theorem ofName?_eq_some {text : String} {k : Cascade} : ofName? text = some k ↔ text = k.name := by
  constructor
  · intro h
    have hname := List.find?_some h
    exact (of_decide_eq_true hname).symm
  · rintro rfl
    exact ofName?_name k

theorem named_eq_ok {text : String} {k : Cascade} : named text = .ok k ↔ text = k.name := by
  rw [← ofName?_eq_some, named]
  cases ofName? text <;> simp

theorem decoder_eq_ok {j : Json} {k : Cascade} : decoder j = .ok k ↔ k.IsNamedBy j := by
  unfold IsNamedBy toJson decoder
  split
  · simp [named_eq_ok]
  · next key value =>
    have hnull : value.isNull = true ↔ value = .null := by cases value <;> simp [Json.isNull]
    simp only [bind_eq_ok, named_eq_ok]
    constructor
    · rintro ⟨k', rfl, h⟩
      split at h
      · next hvalue =>
        cases h
        exact .inr (by rw [hnull.mp hvalue])
      · cases h
    · rintro (h | h)
      · cases h
      · cases h
        exact ⟨k, rfl, rfl⟩
  · next ms hms =>
    refine iff_of_false (by simp) ?_
    rintro (h | h)
    · cases h
    · cases h
      exact hms _ _ rfl
  · next hstring hsingle hobject =>
    refine iff_of_false (by simp) ?_
    rintro (rfl | rfl)
    · exact hstring _ rfl
    · exact hobject _ rfl

theorem required_eq_ok {key : String} {ms : List (String × Json)} {k : Cascade} :
    requiredMember key decoder ms = .ok k ↔ ∃ j, Json.lookup key ms = some j ∧ k.IsNamedBy j := by
  unfold requiredMember
  cases Json.lookup key ms <;> simp [decoder_eq_ok]

end Cascade

theorem Known.check_of_lookup {known : Known} {ms : List (String × Json)} (hms : Json.Ascending ms)
    (h : ∀ k ∈ known, ∀ j, Json.lookup k.1 ms = some j → k.2 j = .ok ()) :
    known.check ms = .ok () := by
  have hnodup : (ms.map (·.1)).Nodup := hms.imp fun hlt => String.ne_of_lt hlt
  refine check_of_forall fun m hm k hk => ?_
  have hfound := List.find?_some hk
  have hkey : k.1 = m.1 := of_decide_eq_true hfound
  refine h k (List.mem_of_find?_eq_some hk) m.2 ?_
  rw [hkey]
  exact Json.lookup_of_mem hnodup hm

namespace Record

variable [Record α]

theorem ofDocument_eq_ok {ms : List (String × Json)} (hms : Json.Ascending ms) {r : α}
    (h : build ms = .ok r → ∀ k ∈ known (α := α), ∀ j, Json.lookup k.1 ms = some j →
      k.2 j = .ok ()) : ofDocument (.object ms) = .ok r ↔ build ms = .ok r := by
  constructor
  · intro hdecode
    obtain ⟨ms', hms', hbuild⟩ := ok_of_ofDocument hdecode
    cases hms'
    exact hbuild
  · intro hbuild
    change ((known (α := α)).check ms >>= fun _ => build ms) = .ok r
    rw [Known.check_of_lookup hms (h hbuild)]
    exact hbuild

end Record

end DocumentGraph
