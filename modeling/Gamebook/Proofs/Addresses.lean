import Gamebook.Story.Basic
import Mathlib.Data.List.Basic

/-!
# Addresses of elements

An element has an *address*: the index of each branch around it, from the outside, and its own
index last.  Addresses are ordered like words.  A branch comes before what is in its body, and
that before what stands behind the branch, so the order of addresses is the order of
presentation.

The addresses of elements can be listed in order, each once (`Element.enumerates_addresses`).
-/

namespace Gamebook.Story

namespace Element

/-! ## Where an element is -/

/-- The element at this address. -/
def at? : List Element → List Nat → Option Element
  | _, [] => none
  | elements, [index] => elements[index]?
  | elements, index :: next :: rest => do at? (← (← elements[index]?).body?) (next :: rest)

/-- The address, with one more element in front of all. -/
def behind : List Nat → List Nat
  | [] => []
  | index :: inner => (index + 1) :: inner

mutual

/-- The addresses in the body of the element, in order. -/
def innerAddresses : Element → List (List Nat)
  | .leaf _ => []
  | .branch _ _ body => addresses body

/-- The addresses of all elements at any depth, in order. -/
def addresses : List Element → List (List Nat)
  | [] => []
  | element :: rest =>
    [0] :: (element.innerAddresses.map (0 :: ·) ++ (addresses rest).map behind)

end

variable {element : Element} {elements rest : List Element} {address : List Nat}

/-- An address behind the first element is one among the others. -/
theorem at?_behind (element : Element) (rest : List Element) (address : List Nat) :
    at? (element :: rest) (behind address) = at? rest address := by
  rcases address with _ | ⟨index, _ | ⟨next, inner⟩⟩ <;> rfl

/-- An address that goes into the first element goes on in its body. -/
theorem at?_inside (element : Element) (rest : List Element) (next : Nat) (inner : List Nat) :
    at? (element :: rest) (0 :: next :: inner) = element.body?.bind (at? · (next :: inner)) := rfl

theorem behind_cons (index : Nat) (inner : List Nat) :
    behind (index :: inner) = (index + 1) :: inner := rfl

/-- Moving an address on does not change how deep it goes. -/
theorem length_behind (address : List Nat) : (behind address).length = address.length := by
  cases address <;> rfl

@[simp] theorem behind_eq_nil_iff : behind address = [] ↔ address = [] := by
  cases address <;> simp [behind]

@[simp] theorem behind_ne_zero_cons {inner : List Nat} : behind address ≠ 0 :: inner := by
  cases address <;> simp [behind]

@[simp] theorem behind_eq_succ_cons_iff {index : Nat} {inner : List Nat} :
    behind address = (index + 1) :: inner ↔ address = index :: inner := by
  cases address <;> simp [behind]

mutual

/-- The addresses inside of an element are those at which its body has something. -/
theorem mem_innerAddresses_iff : ∀ (element : Element) (address : List Nat),
    address ∈ element.innerAddresses ↔ (element.body?.bind (at? · address)).isSome
  | .leaf _, _ => by simp [innerAddresses, body?]
  | .branch _ _ body, address => mem_addresses_iff body address

/-- The addresses are those where an element is found. -/
theorem mem_addresses_iff : ∀ (elements : List Element) (address : List Nat),
    address ∈ addresses elements ↔ (at? elements address).isSome
  | [], address => by rcases address with _ | ⟨index, _ | ⟨next, inner⟩⟩ <;> simp [addresses, at?]
  | element :: rest, [] => by
    have nowhere : [] ∉ addresses rest := by simp [mem_addresses_iff rest [], at?]
    simp [addresses, at?, nowhere]
  | element :: rest, [0] => by simp [addresses, at?]
  | element :: rest, 0 :: next :: inner => by
    rw [at?_inside, ← mem_innerAddresses_iff element (next :: inner)]
    simp [addresses]
  | element :: rest, (index + 1) :: inner => by
    have later := mem_addresses_iff rest (index :: inner)
    rw [← behind_cons, at?_behind, ← later]
    simp [addresses, behind_cons]

end

/-! ## The order of addresses -/

/-- The empty address is that of no element. -/
theorem nil_not_mem_addresses (elements : List Element) : [] ∉ addresses elements := by
  simp [mem_addresses_iff, at?]

theorem nil_not_mem_innerAddresses (element : Element) : [] ∉ element.innerAddresses := by
  cases element with
  | leaf leaf => exact List.not_mem_nil
  | branch kind condition body => exact nil_not_mem_addresses body

/-- Moving both addresses on keeps their order. -/
theorem behind_lt_behind {first second : List Nat} (before : first < second) :
    behind first < behind second := by
  cases second with
  | nil => exact absurd before (List.not_lt_nil first)
  | cons index' inner' =>
    cases first with
    | nil => exact List.nil_lt_cons _ _
    | cons index inner => simpa [behind_cons, List.cons_lt_cons_iff] using before

/-- Everything inside of the first element comes before everything behind it. -/
theorem cons_zero_lt_behind (inner : List Nat) (somewhere : address ≠ []) :
    0 :: inner < behind address := by
  cases address with
  | nil => exact absurd rfl somewhere
  | cons index others => exact List.cons_lt_cons_iff.mpr (.inl index.succ_pos)

mutual

/-- The addresses inside of an element are listed in order. -/
theorem innerAddresses_pairwise : ∀ element : Element, element.innerAddresses.Pairwise (· < ·)
  | .leaf _ => .nil
  | .branch _ _ body => addresses_pairwise body

/-- A branch is in front of what is in it, and that in front of what stands behind. -/
theorem addresses_pairwise : ∀ elements : List Element, (addresses elements).Pairwise (· < ·)
  | [] => .nil
  | element :: rest => by
    have inside : (element.innerAddresses.map (0 :: ·)).Pairwise (· < ·) :=
      (innerAddresses_pairwise element).map _ fun _ _ => List.cons_lt_cons_self.mpr
    have later : ((addresses rest).map behind).Pairwise (· < ·) :=
      (addresses_pairwise rest).map _ fun _ _ => behind_lt_behind
    have apart (inner : List Nat) : ∀ address ∈ (addresses rest).map behind,
        0 :: inner < address := by
      refine List.forall_mem_map.mpr fun address isLater => ?_
      exact cons_zero_lt_behind inner (ne_of_mem_of_not_mem isLater (nil_not_mem_addresses rest))
    have first : ∀ address ∈ element.innerAddresses.map (0 :: ·), [0] < address := by
      refine List.forall_mem_map.mpr fun inner isInside => ?_
      have somewhere := ne_of_mem_of_not_mem isInside (nil_not_mem_innerAddresses element)
      obtain ⟨index, others, rfl⟩ := List.exists_cons_of_ne_nil somewhere
      exact List.cons_lt_cons_self.mpr (List.nil_lt_cons _ _)
    rw [addresses, List.pairwise_cons, List.pairwise_append, List.forall_mem_append]
    exact ⟨⟨first, apart []⟩, inside, later, List.forall_mem_map.mpr fun inner _ => apart inner⟩

end

/-- These are the addresses of the elements, each once and in the order of presentation. -/
structure Enumerates (elements : List Element) (listed : List (List Nat)) : Prop where
  /-- A branch comes before its body, and that before what stands behind the branch. -/
  ordered : listed.Pairwise (· < ·)
  /-- There is an element at just these addresses. -/
  complete : ∀ address, address ∈ listed ↔ (at? elements address).isSome

/-- The listing has every address once, and in order. -/
theorem enumerates_addresses (elements : List Element) :
    Enumerates elements (addresses elements) :=
  ⟨addresses_pairwise elements, mem_addresses_iff elements⟩

end Element

end Gamebook.Story
