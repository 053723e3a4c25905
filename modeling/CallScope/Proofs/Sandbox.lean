import CallScope.Host.Sandbox

/-!
This module contains what becomes of a name that is too long: it is its own normal form, and a sandbox does not find it
absent but refuses it.
-/

namespace CallScope

namespace Path

theorem parts.go_of_not_mem {chars : List Char} (h : '/' ∉ chars) (part : List Char) :
    go part chars = [String.ofList (part.reverse ++ chars)] := by
  induction chars generalizing part with
  | nil => simp [go]
  | cons c chars ih =>
    rw [List.mem_cons, not_or] at h
    rw [go, ih h.2]
    · simp
    · intro heq
      exact h.1 heq.symm

theorem parts_of_not_mem {path : String} (h : '/' ∉ path.toList) : parts path = [path] := by
  rw [parts, parts.go_of_not_mem h]
  simp

theorem normalize_of_not_mem {path : String} (hslash : '/' ∉ path.toList) (hempty : path ≠ "") (hdot : path ≠ ".") :
    normalize path = path := by
  have hroot : root path = "" := by
    unfold root
    cases hchars : path.toList with
    | nil => rfl
    | cons c cs =>
      have hne : c ≠ '/' := by
        rintro rfl
        exact hslash (hchars ▸ List.mem_cons_self)
      rw [List.takeWhile_cons_of_neg (by simpa using hne)]
  simp only [normalize, hroot, parts_of_not_mem hslash]
  simp [hempty, hdot]

end Path

namespace Sandbox

variable {box : Sandbox} {entries : List (String × Node)} {name : String}

theorem ne_of_nameLimit_le {short : String} (hlimit : Node.nameLimit ≤ name.utf8ByteSize)
    (hshort : short.utf8ByteSize < Node.nameLimit) : name ≠ short := by
  rintro rfl
  omega

theorem find_of_nameLimit_le (hdirectory : box.workingDirectory = .directory entries) (hslash : '/' ∉ name.toList)
    (hnull : '\x00' ∉ name.toList) (hlimit : Node.nameLimit ≤ name.utf8ByteSize) :
    box.find name = .error .nameTooLong := by
  have hempty : name ≠ "" := ne_of_nameLimit_le hlimit (by decide)
  have hdot : name ≠ "." := ne_of_nameLimit_le hlimit (by decide)
  have hparent : name ≠ ".." := ne_of_nameLimit_le hlimit (by decide)
  have hstart : name.startsWith "/" = false := by
    rw [String.startsWith_string_eq_false_iff]
    intro h
    exact hslash (h.subset (by simp))
  have hnull : name.contains '\x00' = false := by
    rw [String.contains_char_eq]
    simpa using hnull
  unfold find
  rw [hnull, hstart, Path.parts_of_not_mem hslash, hdirectory]
  simp [hempty, hdot, hparent, hlimit, Node.follow]

theorem kind_of_nameLimit_le (hdirectory : box.workingDirectory = .directory entries) (hslash : '/' ∉ name.toList)
    (hnull : '\x00' ∉ name.toList) (hlimit : Node.nameLimit ≤ name.utf8ByteSize) :
    box.host.kind (Path.normalize name) = .error .nameTooLong := by
  have hnormal : Path.normalize name = name := by
    apply Path.normalize_of_not_mem hslash
    · exact ne_of_nameLimit_le hlimit (by decide)
    · exact ne_of_nameLimit_le hlimit (by decide)
  rw [hnormal]
  simp only [host, find_of_nameLimit_le hdirectory hslash hnull hlimit]
  rfl

end Sandbox

end CallScope
