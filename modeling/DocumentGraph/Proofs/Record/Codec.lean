import DocumentGraph.Proofs.Json.Members
import DocumentGraph.Store.Record
set_option autoImplicit false

/-!
# Encoding and decoding records

A document that is built of members with different keys decodes like the list of these members. A
member that is set reads back, one that is not set is missing and reads as not set, and so does one
that is null.
-/

namespace DocumentGraph

def unlessNull (data : Option Json) : Option Json := data.filter fun j => !j.isNull

theorem unlessNull_unlessNull (data : Option Json) :
    unlessNull (unlessNull data) = unlessNull data := by
  rw [unlessNull, unlessNull, Option.filter_filter]
  simp

theorem Known.check_of_forall {known : Known} {ms : List (String × Json)}
    (h : ∀ m ∈ ms, ∀ k, known.find? (fun k => k.1 = m.1) = some k → k.2 m.2 = .ok ()) :
    known.check ms = .ok () := by
  induction ms with
  | nil => rfl
  | cons m rest ih =>
    obtain ⟨key, value⟩ := m
    have hrest := ih fun m hm => h m (List.mem_cons_of_mem _ hm)
    unfold check
    cases hk : known.find? fun k => k.1 = key with
    | none => exact hrest
    | some k =>
      have hvalue := h (key, value) List.mem_cons_self k hk
      simp only [hvalue]
      exact hrest

section Lookup

variable {α : Type} {key other : String} {d : Decoder α} {ms : List (String × Json)} {j : Json}

theorem lookup_memberIfSet (encode : α → Json) (o : Option α) :
    Json.lookup key (memberIfSet other encode o) = if key = other then o.map encode else none := by
  cases o <;> by_cases h : key = other <;> simp [memberIfSet, Json.lookup, h]

theorem keys_memberIfSet (encode : α → Json) (o : Option α) :
    ((memberIfSet key encode o).map (·.1)).Sublist [key] := by
  cases o
  · exact List.nil_sublist _
  · exact List.Sublist.refl _

theorem mem_memberIfSet {encode : α → Json} {o : Option α} {m : String × Json} :
    m ∈ memberIfSet key encode o ↔ ∃ a, o = some a ∧ m = (key, encode a) := by
  cases o <;> simp [memberIfSet]

theorem requiredMember_of_lookup (h : Json.lookup key ms = some j) :
    requiredMember key d ms = d j := by
  rw [requiredMember, h]

theorem ok_of_requiredMember {β : Type} {f : α → Except DecodeError β} {b : β}
    (h : (requiredMember key d ms >>= f) = .ok b) :
    ∃ j a, Json.lookup key ms = some j ∧ d j = .ok a ∧ f a = .ok b := by
  unfold requiredMember at h
  cases hj : Json.lookup key ms with
  | none =>
    rw [hj] at h
    cases h
  | some j =>
    rw [hj] at h
    cases ha : d j with
    | error e =>
      simp only [ha] at h
      cases h
    | ok a =>
      simp only [ha] at h
      exact ⟨j, a, rfl, ha, h⟩

theorem optionalMember_of_lookup {encode : α → Json} {o : Option α}
    (h : Json.lookup key ms = o.map encode) (hd : ∀ a, Decoder.optional d (encode a) = .ok (some a)) :
    optionalMember key d ms = .ok o := by
  rw [optionalMember, h]
  cases o with
  | none => rfl
  | some a => exact hd a

theorem optionalMember_any {o : Option Json} (h : Json.lookup key ms = o) :
    optionalMember key .any ms = .ok (unlessNull o) := by
  rw [optionalMember, h]
  cases o with
  | none => rfl
  | some j => cases j <;> rfl

end Lookup

namespace Decoder

theorem optional_string (s : String) : optional string (.string s) = .ok (some s) := rfl

theorem int64_ofInt64 (t : Int64) : int64 (.number (.ofInt64 t)) = .ok t := by
  have hlt : t.toInt < 9223372036854775808 := t.toInt_lt
  simp only [int64, integer, Number.ofInt64, if_pos hlt, Int64.ofInt_toInt]

theorem uint64_ofUInt64 (n : UInt64) : uint64 (.number (.ofUInt64 n)) = .ok n := by
  have hnonneg : (0 : Int) ≤ n.toNat := Int.natCast_nonneg _
  simp only [uint64, integer, Number.ofUInt64, if_pos hnonneg, Int.toNat_natCast, UInt64.ofNat_toNat]

theorem string_eq_ok {j : Json} {s : String} : string j = .ok s ↔ j = .string s := by
  cases j <;> simp [string]

theorem members_eq_ok {j : Json} {ms : List (String × Json)} : members j = .ok ms ↔ j = .object ms := by
  cases j <;> simp [members]

end Decoder

namespace Record

variable {α : Type} [Record α]

theorem ok_of_ofDocument {j : Json} {r : α} (h : ofDocument j = .ok r) :
    ∃ ms, j = .object ms ∧ build ms = .ok r := by
  unfold ofDocument at h
  cases j with
  | object ms =>
    refine ⟨ms, rfl, ?_⟩
    change ((known (α := α)).check ms >>= fun _ => build ms) = .ok r at h
    cases hknown : (known (α := α)).check ms with
    | error e =>
      rw [hknown] at h
      cases h
    | ok u =>
      rw [hknown] at h
      exact h
  | _ => cases h

theorem ofDocument_document {r : α} (hkeys : ((members r).map (·.1)).Nodup)
    (hknown : ∀ m ∈ members r, ∀ k, (known (α := α)).find? (fun k => k.1 = m.1) = some k →
      k.2 m.2 = .ok ()) :
    ∃ ms, (∀ key, Json.lookup key ms = Json.lookup key (members r)) ∧
      (ofDocument (document r) : Except DecodeError α) = build ms := by
  refine ⟨Json.mergeMembers [] (members r), fun key => ?_, ?_⟩
  · rw [Json.lookup_mergeMembers key [] _ hkeys, Json.lookup_nil, Option.or_none]
  · have hcheck : (known (α := α)).check (Json.mergeMembers [] (members r)) = .ok () := by
      refine Known.check_of_forall fun m hm => hknown m ?_
      rcases Json.mem_mergeMembers hm with hm | hm
      · exact hm
      · cases hm
    change ((known (α := α)).check (Json.mergeMembers [] (members r)) >>= fun _ =>
      build (Json.mergeMembers [] (members r))) = _
    rw [hcheck]
    rfl

theorem eq_of_document {decoded : α → α} (h : ∀ r : α, ofDocument (document r) = .ok (decoded r))
    {r s : α} (heq : document r = document s) : decoded r = decoded s := by
  have hr := h r
  rw [heq, h s] at hr
  exact Except.ok.inj hr.symm

end Record

end DocumentGraph
