/-
Texts as bytes.

`decode` reads bytes as UTF-8. A sequence of bytes that is the beginning of no character is read
as one mistake, `none`, and reading goes on with the byte that cannot continue it.
-/
import RelStore.Text.Units

namespace RelStore.Text

/-- How many bytes a text has outside, in UTF-8. -/
def byteLength (s : String) : Nat := (leave s).utf8ByteSize

/-- A character of which the first bytes are read: its code so far, how many bytes are still to
come, and the range of the next. -/
structure Partial where
  code : Nat
  missing : Nat
  low : Nat
  high : Nat

/-- What begins with a byte: a character of its own, a longer one, or nothing. -/
inductive Start where
  | whole (c : Char)
  | first (p : Partial)
  | mistake

/-- The least codes of characters of three and of four bytes, the codes from 0xD800 to 0xDFFF,
which are no characters, and the greatest code bound the second byte. -/
def startOf (byte : Nat) : Start :=
  if byte < 0x80 then .whole (Char.ofNat byte)
  else if byte < 0xC2 then .mistake
  else if byte < 0xE0 then .first ⟨byte - 0xC0, 1, 0x80, 0xBF⟩
  else if byte < 0xF0 then
    .first ⟨byte - 0xE0, 2, if byte = 0xE0 then 0xA0 else 0x80, if byte = 0xED then 0x9F else 0xBF⟩
  else if byte < 0xF5 then
    .first ⟨byte - 0xF0, 3, if byte = 0xF0 then 0x90 else 0x80, if byte = 0xF4 then 0x8F else 0xBF⟩
  else .mistake

/-- Reads a byte on its own. -/
def decodeStart (byte : Nat) : List (Option Char) × Option Partial :=
  match startOf byte with
  | .whole c => ([some c], none)
  | .first p => ([], some p)
  | .mistake => ([none], none)

/-- Reads a byte after a partial character. -/
def decodeByte (state : Option Partial) (byte : Nat) : List (Option Char) × Option Partial :=
  match state with
  | none => decodeStart byte
  | some p =>
    if p.low ≤ byte && byte ≤ p.high then
      let code := p.code * 64 + (byte - 0x80)
      if p.missing ≤ 1 then ([some (Char.ofNat code)], none)
      else ([], some ⟨code, p.missing - 1, 0x80, 0xBF⟩)
    else
      let (read, state) := decodeStart byte
      (none :: read, state)

def decodeFrom (state : Option Partial) : List Nat → List (Option Char)
  | [] => if state.isSome then [none] else []
  | byte :: rest =>
    let (read, next) := decodeByte state byte
    read ++ decodeFrom next rest

/-- The characters of bytes, `none` for each mistake. -/
def decode (bytes : List Nat) : List (Option Char) := decodeFrom none bytes

/-- The text of bytes, if there is no mistake in it. -/
def ofBytes? (bytes : List Nat) : Option String :=
  ((decode bytes).mapM id).map fun chars => enter (String.ofList chars)

/-- The text of bytes, with a replacement character for each mistake. -/
def ofBytes (bytes : List Nat) : String :=
  enter (String.ofList ((decode bytes).map (·.getD replacement)))

end RelStore.Text
