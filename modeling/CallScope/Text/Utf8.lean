/-!
This module contains the reading of octets as UTF-8. Octets that are no character do not stop it: every
maximal part that begins a character but does not finish it, and every octet that begins none, is read as
one replacement character.
-/

namespace CallScope.Text.Utf8

/--
Where the reader stands between two octets. Inside a character it knows how many octets are missing, the range
of the next one, and the bits read so far.
-/
inductive State where
  | idle
  | inside (missing : Nat) (low high : UInt8) (bits : Nat)
  deriving DecidableEq, Repr

def replacement : Char := '�'

def first (octet : UInt8) : List Char × State :=
  if octet < 0x80 then ([Char.ofNat octet.toNat], .idle)
  else if octet < 0xC2 then ([replacement], .idle)
  else if octet < 0xE0 then ([], .inside 1 0x80 0xBF (octet.toNat - 0xC0))
  else if octet = 0xE0 then ([], .inside 2 0xA0 0xBF 0)
  else if octet = 0xED then ([], .inside 2 0x80 0x9F 0xD)
  else if octet < 0xF0 then ([], .inside 2 0x80 0xBF (octet.toNat - 0xE0))
  else if octet = 0xF0 then ([], .inside 3 0x90 0xBF 0)
  else if octet < 0xF4 then ([], .inside 3 0x80 0xBF (octet.toNat - 0xF0))
  else if octet = 0xF4 then ([], .inside 3 0x80 0x8F 4)
  else ([replacement], .idle)

/--
Read one octet. The result holds the characters that it completes and the state after it.
-/
def step : State → UInt8 → List Char × State
  | .idle, octet => first octet
  | .inside missing low high bits, octet =>
    if low ≤ octet ∧ octet ≤ high then
      let bits := bits * 64 + (octet.toNat - 0x80)
      if missing ≤ 1 then ([Char.ofNat bits], .idle) else ([], .inside (missing - 1) 0x80 0xBF bits)
    else
      let read := first octet
      (replacement :: read.1, read.2)

def State.finish : State → List Char
  | .idle => []
  | .inside .. => [replacement]

/--
Read octets from a state on. The characters before them are in `read`, the last one first.
-/
def decodeFrom (read : List Char) : State → List UInt8 → List Char
  | state, [] => read.reverse ++ state.finish
  | state, octet :: octets =>
    let next := step state octet
    decodeFrom (next.1.reverse ++ read) next.2 octets

def decode (octets : List UInt8) : List Char :=
  decodeFrom [] .idle octets

end CallScope.Text.Utf8
