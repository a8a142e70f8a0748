import Mathlib.Data.List.Basic
import Mathlib.Data.List.GetD

/-!
# Base64

Three bytes are written with four digits of six bits, and padding fills the last group. The
decoder is lenient: it skips what is no digit, stops where the padding completes a group, and
refuses an incomplete group.
-/

namespace Base64

def alphabet : List Char :=
  "ABCDEFGHIJKLMNOPQRSTUVWXYZabcdefghijklmnopqrstuvwxyz0123456789+/".toList

/-- The digit for six bits. -/
def digit (bits : Nat) : Char :=
  alphabet.getD bits '='

/-- The six bits of a digit. -/
def bits? (char : Char) : Option Nat :=
  alphabet.idxOf? char

theorem alphabet_eq :
    alphabet =
      ['A', 'B', 'C', 'D', 'E', 'F', 'G', 'H', 'I', 'J', 'K', 'L', 'M', 'N', 'O', 'P', 'Q', 'R',
        'S', 'T', 'U', 'V', 'W', 'X', 'Y', 'Z', 'a', 'b', 'c', 'd', 'e', 'f', 'g', 'h', 'i', 'j',
        'k', 'l', 'm', 'n', 'o', 'p', 'q', 'r', 's', 't', 'u', 'v', 'w', 'x', 'y', 'z', '0', '1',
        '2', '3', '4', '5', '6', '7', '8', '9', '+', '/'] :=
  String.toList_ofList

theorem length_alphabet : alphabet.length = 64 := by
  rw [alphabet_eq]
  rfl

/-- The place of a digit in the alphabet, from its code. -/
def place (char : Char) : Nat :=
  if 97 ≤ char.toNat then char.toNat - 71
  else if 65 ≤ char.toNat then char.toNat - 65
  else if 48 ≤ char.toNat then char.toNat + 4
  else if char.toNat = 43 then 62
  else 63

theorem place_digit : ∀ bits < 64, place (digit bits) = bits := by
  unfold digit
  rw [alphabet_eq]
  decide +kernel

/-- A digit is found where it stands, since no two have the same place. -/
theorem bits?_digit (bits : Nat) (bound : bits < 64) : bits? (digit bits) = some bits := by
  have stands (index : Nat) (less : index < alphabet.length) :
      alphabet[index] = digit index :=
    (List.getD_eq_getElem alphabet '=' less).symm
  rw [← length_alphabet] at bound
  unfold bits?
  rw [List.idxOf?_eq_some_iff]
  refine ⟨bound, stands bits bound, ?_⟩
  intro index less same
  have less' := Nat.lt_trans less bound
  rw [stands index less'] at same
  have places := congrArg place same
  rw [length_alphabet] at bound less'
  rw [place_digit index less', place_digit bits bound] at places
  exact Nat.ne_of_lt less places

theorem digit_ne_pad : ∀ bits < 64, digit bits ≠ '=' := by
  unfold digit
  rw [alphabet_eq]
  decide +kernel

def encode : List UInt8 → List Char
  | [] => []
  | [first] => [digit (first.toNat / 4), digit (first.toNat % 4 * 16), '=', '=']
  | [first, second] =>
      [digit (first.toNat / 4), digit (first.toNat % 4 * 16 + second.toNat / 16),
        digit (second.toNat % 16 * 4), '=']
  | first :: second :: third :: rest =>
      digit (first.toNat / 4) :: digit (first.toNat % 4 * 16 + second.toNat / 16) ::
        digit (second.toNat % 16 * 4 + third.toNat / 64) :: digit (third.toNat % 64) ::
        encode rest

/-- The decoder after some digits of a group: how many there are, the bits of them that are no
byte yet, and the pads since the last digit. -/
def decodeFrom (digits left pads : Nat) : List Char → Option (List UInt8)
  | [] => if digits = 0 then some [] else none
  | char :: rest =>
      if char = '=' then
        if 2 ≤ digits then
          if 4 ≤ digits + (pads + 1) then some [] else decodeFrom digits left (pads + 1) rest
        else
          decodeFrom digits left pads rest
      else
        match bits? char with
        | none => decodeFrom digits left pads rest
        | some bits =>
            match digits with
            | 0 => decodeFrom 1 bits 0 rest
            | 1 =>
                (decodeFrom 2 (bits % 16) 0 rest).map
                  (UInt8.ofNat (left * 4 + bits / 16) :: ·)
            | 2 =>
                (decodeFrom 3 (bits % 4) 0 rest).map
                  (UInt8.ofNat (left * 16 + bits / 4) :: ·)
            | _ => (decodeFrom 0 0 0 rest).map (UInt8.ofNat (left * 64 + bits) :: ·)

def decode (chars : List Char) : Option (List UInt8) :=
  decodeFrom 0 0 0 chars

section

variable {digits left pads bits : Nat} {rest : List Char}

theorem decodeFrom_pad :
    decodeFrom digits left pads ('=' :: rest) =
      if 2 ≤ digits then
        if 4 ≤ digits + (pads + 1) then some [] else decodeFrom digits left (pads + 1) rest
      else decodeFrom digits left pads rest :=
  if_pos rfl

/-- A digit counts as its bits. -/
theorem decodeFrom_digit (bound : bits < 64) :
    decodeFrom digits left pads (digit bits :: rest) =
      match digits with
      | 0 => decodeFrom 1 bits 0 rest
      | 1 =>
          (decodeFrom 2 (bits % 16) 0 rest).map (UInt8.ofNat (left * 4 + bits / 16) :: ·)
      | 2 =>
          (decodeFrom 3 (bits % 4) 0 rest).map (UInt8.ofNat (left * 16 + bits / 4) :: ·)
      | _ => (decodeFrom 0 0 0 rest).map (UInt8.ofNat (left * 64 + bits) :: ·) := by
  apply (if_neg (digit_ne_pad bits bound)).trans
  rw [bits?_digit bits bound]

theorem decodeFrom_first (bound : bits < 64) :
    decodeFrom 0 left pads (digit bits :: rest) = decodeFrom 1 bits 0 rest :=
  decodeFrom_digit bound

theorem decodeFrom_second (bound : bits < 64) :
    decodeFrom 1 left pads (digit bits :: rest) =
      (decodeFrom 2 (bits % 16) 0 rest).map (UInt8.ofNat (left * 4 + bits / 16) :: ·) :=
  decodeFrom_digit bound

theorem decodeFrom_third (bound : bits < 64) :
    decodeFrom 2 left pads (digit bits :: rest) =
      (decodeFrom 3 (bits % 4) 0 rest).map (UInt8.ofNat (left * 16 + bits / 4) :: ·) :=
  decodeFrom_digit bound

theorem decodeFrom_fourth (bound : bits < 64) :
    decodeFrom 3 left pads (digit bits :: rest) =
      (decodeFrom 0 0 0 rest).map (UInt8.ofNat (left * 64 + bits) :: ·) :=
  decodeFrom_digit bound

/-- A number that is put together from the bits of a byte. -/
theorem ofNat_eq {number : Nat} {byte : UInt8} (same : number = byte.toNat) :
    UInt8.ofNat number = byte := by
  rw [same, UInt8.ofNat_toNat]

end

/-- What has been encoded is decoded. -/
theorem decode_encode (bytes : List UInt8) : decode (encode bytes) = some bytes := by
  unfold decode
  induction bytes using encode.induct with
  | case1 => rfl
  | case2 first =>
      have bound := first.toNat_lt
      have byte : UInt8.ofNat (first.toNat / 4 * 4 + first.toNat % 4 * 16 / 16) = first :=
        ofNat_eq (by omega)
      rw [encode, decodeFrom_first (by omega), decodeFrom_second (by omega), decodeFrom_pad,
        decodeFrom_pad]
      simp only [byte, ↓reduceIte, Nat.reduceLeDiff, Nat.reduceAdd, Option.map_some]
  | case3 first second =>
      have bound := first.toNat_lt
      have bound' := second.toNat_lt
      have byte : UInt8.ofNat (first.toNat / 4 * 4 +
          (first.toNat % 4 * 16 + second.toNat / 16) / 16) = first :=
        ofNat_eq (by omega)
      have byte' : UInt8.ofNat ((first.toNat % 4 * 16 + second.toNat / 16) % 16 * 16 +
          second.toNat % 16 * 4 / 4) = second :=
        ofNat_eq (by omega)
      rw [encode, decodeFrom_first (by omega), decodeFrom_second (by omega),
        decodeFrom_third (by omega), decodeFrom_pad]
      simp only [byte, byte', ↓reduceIte, Nat.reduceLeDiff, Nat.reduceAdd, Option.map_some]
  | case4 first second third rest ih =>
      have bound := first.toNat_lt
      have bound' := second.toNat_lt
      have bound'' := third.toNat_lt
      have byte : UInt8.ofNat (first.toNat / 4 * 4 +
          (first.toNat % 4 * 16 + second.toNat / 16) / 16) = first :=
        ofNat_eq (by omega)
      have byte' : UInt8.ofNat ((first.toNat % 4 * 16 + second.toNat / 16) % 16 * 16 +
          (second.toNat % 16 * 4 + third.toNat / 64) / 4) = second :=
        ofNat_eq (by omega)
      have byte'' : UInt8.ofNat ((second.toNat % 16 * 4 + third.toNat / 64) % 4 * 64 +
          third.toNat % 64) = third :=
        ofNat_eq (by omega)
      rw [encode, decodeFrom_first (by omega), decodeFrom_second (by omega),
        decodeFrom_third (by omega), decodeFrom_fourth (by omega), ih]
      simp only [byte, byte', byte'', Option.map_some]

/-- Each group of three bytes, also the last one, takes four characters. -/
theorem length_encode (bytes : List UInt8) :
    (encode bytes).length = (bytes.length + 2) / 3 * 4 := by
  induction bytes using encode.induct with
  | case1 => rfl
  | case2 first => simp [encode]
  | case3 first second => simp [encode]
  | case4 first second third rest ih =>
      simp only [encode, List.length_cons, ih]
      omega

theorem digit_ascii (bits : Nat) : (digit bits).toNat < 128 := by
  have ascii : ∀ bits < 64, (digit bits).toNat < 128 := by
    unfold digit
    rw [alphabet_eq]
    decide +kernel
  obtain bound | bound := Nat.lt_or_ge bits 64
  · exact ascii bits bound
  · rw [← length_alphabet] at bound
    rw [digit, List.getD_eq_default alphabet '=' bound]
    decide

/-- The encoded bytes are ASCII text. -/
theorem ascii_of_mem_encode {bytes : List UInt8} {char : Char} (member : char ∈ encode bytes) :
    char.toNat < 128 := by
  have pad : ('=' : Char).toNat < 128 := by decide
  induction bytes using encode.induct with
  | case1 => simp [encode] at member
  | case2 first =>
      simp only [encode, List.mem_cons, List.not_mem_nil, or_false] at member
      obtain rfl | rfl | rfl | rfl := member
      · exact digit_ascii _
      · exact digit_ascii _
      · exact pad
      · exact pad
  | case3 first second =>
      simp only [encode, List.mem_cons, List.not_mem_nil, or_false] at member
      obtain rfl | rfl | rfl | rfl := member
      · exact digit_ascii _
      · exact digit_ascii _
      · exact digit_ascii _
      · exact pad
  | case4 first second third rest ih =>
      simp only [encode, List.mem_cons] at member
      obtain rfl | rfl | rfl | rfl | member := member
      · exact digit_ascii _
      · exact digit_ascii _
      · exact digit_ascii _
      · exact digit_ascii _
      · exact ih member

end Base64
