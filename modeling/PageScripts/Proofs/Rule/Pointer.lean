import PageScripts.Proofs.Text.Pieces
import PageScripts.Rule.Report

/-!
# Pointers are read back

The place of a flaw is given as a JSON pointer (RFC 6901): reference tokens, each behind a slash, in
which `~1` stands for a slash and `~0` for a tilde.

* `tokenChars?`, `pointerTokens?` read tokens and pointers.
* `pointerTokens?_pointer`: the pointer to a member is read back as its key alone, whatever characters
  the key has; so different keys have different pointers.
-/

namespace PageScripts

section Defs

/-- The characters that a reference token stands for; after a tilde there is a zero or a one. -/
def tokenChars? : List Char → Option (List Char)
  | [] => some []
  | '~' :: '0' :: rest => (tokenChars? rest).map ('~' :: ·)
  | '~' :: '1' :: rest => (tokenChars? rest).map ('/' :: ·)
  | '~' :: _ => none
  | c :: rest => (tokenChars? rest).map (c :: ·)

/-- The reference tokens of a JSON pointer; the empty pointer has none. -/
def pointerTokens? (text : String) : Option (List String) :=
  match text.toList with
  | [] => some []
  | '/' :: rest =>
      (Text.pieces '/' rest).mapM fun token => (tokenChars? token).map String.ofList
  | _ => none

end Defs

section ReadBack

theorem tokenChars?_pointerChars (cs : List Char) :
    tokenChars? (pointerChars cs) = some cs := by
  induction cs using pointerChars.induct with
  | case1 =>
      rfl
  | case2 rest ih =>
      simp [pointerChars, tokenChars?, ih]
  | case3 rest ih =>
      simp [pointerChars, tokenChars?, ih]
  | case4 c rest htilde hslash ih =>
      have hc : c ≠ '~' := htilde
      simp [pointerChars, tokenChars?, ih, hc]

theorem slash_not_mem_pointerChars (cs : List Char) :
    '/' ∉ pointerChars cs := by
  induction cs using pointerChars.induct with
  | case1 =>
      simp [pointerChars]
  | case2 rest ih =>
      simp [pointerChars, ih]
  | case3 rest ih =>
      simp [pointerChars, ih]
  | case4 c rest htilde hslash ih =>
      have hc : c ≠ '/' := hslash
      simp [pointerChars, ih, hc.symm]

theorem pointerTokens?_pointer (key : String) :
    pointerTokens? (pointer key) = some [key] := by
  simp [pointerTokens?, pointer, Text.pieces_of_not_mem (slash_not_mem_pointerChars key.toList),
    tokenChars?_pointerChars]

theorem pointer_injective :
    Function.Injective pointer := by
  intro first second h
  have htokens := pointerTokens?_pointer first
  rw [h, pointerTokens?_pointer] at htokens
  simpa using htokens.symm

/-- The key of a member may look like a pointer itself. -/
example : pointerTokens? (pointer "/~1") = some ["/~1"] := by decide

end ReadBack
end PageScripts
