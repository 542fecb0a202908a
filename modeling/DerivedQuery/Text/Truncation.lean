/-!
# Texts cut to a number of bytes

* `byteCount`: the number of bytes of a text in UTF-8 (`byteCount_toList`).
* `truncate`: as many whole characters as fit into a number of bytes; what is kept is a prefix
  (`takeBytes_prefix`) and does fit (`byteCount_takeBytes_le`).
* `abridge`: marks with an ellipsis that something was cut off.
-/

namespace DerivedQuery.Text

/-- The number of bytes of a text in UTF-8. -/
def byteCount : List Char → Nat
  | [] => 0
  | c :: cs => c.utf8Size + byteCount cs

/-- The characters from the first on that fit into `bytes` bytes. -/
def takeBytes (bytes : Nat) : List Char → List Char
  | [] => []
  | c :: cs => if c.utf8Size ≤ bytes then c :: takeBytes (bytes - c.utf8Size) cs else []

/-- A text cut to `bytes` bytes, without splitting a character. -/
def truncate (bytes : Nat) (s : String) : String :=
  String.ofList (takeBytes bytes s.toList)

/-- A text of more than `bytes` bytes cut to that and marked with an ellipsis. -/
def abridge (bytes : Nat) (s : String) : String :=
  if byteCount s.toList ≤ bytes then s else truncate bytes s ++ "..."

theorem takeBytes_prefix (bytes : Nat) (cs : List Char) : takeBytes bytes cs <+: cs := by
  induction cs generalizing bytes with
  | nil => exact List.prefix_rfl
  | cons c cs ih =>
    unfold takeBytes
    split
    · exact (List.prefix_cons_inj c).2 (ih _)
    · exact List.nil_prefix

theorem byteCount_takeBytes_le (bytes : Nat) (cs : List Char) :
    byteCount (takeBytes bytes cs) ≤ bytes := by
  induction cs generalizing bytes with
  | nil => exact Nat.zero_le _
  | cons c cs ih =>
    unfold takeBytes
    split
    · have := ih (bytes - c.utf8Size)
      simp only [byteCount]
      omega
    · exact Nat.zero_le _

/-- The count agrees with the size of the string. -/
theorem byteCount_toList (s : String) : byteCount s.toList = s.utf8ByteSize := by
  suffices h : ∀ cs, byteCount cs = (String.ofList cs).utf8ByteSize by
    rw [h, String.ofList_toList]
  intro cs
  induction cs with
  | nil => simp [byteCount, String.ofList_nil]
  | cons c cs ih =>
    have hcons : String.ofList (c :: cs) = String.singleton c ++ String.ofList cs := by
      rw [String.singleton_eq_ofList, ← String.ofList_append]
      rfl
    rw [byteCount, ih, hcons, String.utf8ByteSize_append, String.utf8ByteSize_singleton]

end DerivedQuery.Text
