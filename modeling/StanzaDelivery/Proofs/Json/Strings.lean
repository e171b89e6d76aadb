import StanzaDelivery.Json.Reader
import StanzaDelivery.Proofs.Text.Characters

/-! Strings of JSON documents. A string is spelled piece by piece: a character stands for itself, or
an escape stands for a character or for a unit of sixteen bits. Pieces make a text if each of their
units is a character or is one half of a character beyond the sixteen bits, with the other half
behind it. Whatever is spelled so is read as this text, and every text is written so. -/

namespace StanzaDelivery.Json

variable {c : Char} {n : Nat} {pieces : List Piece} {text : List Char}

def shortEscapes : List (Char × Char) :=
  [('"', '"'), ('\\', '\\'), ('/', '/'), ('b', '\x08'), ('f', '\x0c'), ('n', '\n'), ('r', '\r'),
    ('t', '\t')]

def IsHexDigit (c : Char) (n : Nat) : Prop :=
  "0123456789abcdef".toList[n]? = some c ∨ "0123456789ABCDEF".toList[n]? = some c

instance : Decidable (IsHexDigit c n) := inferInstanceAs (Decidable (_ ∨ _))

inductive PieceSpelled : List Char → Piece → Prop
  | plain {c : Char} (visible : 0x20 ≤ c.toNat) (bare : c ≠ '"' ∧ c ≠ '\\') :
      PieceSpelled [c] (.char c)
  | short {letter c : Char} (listed : (letter, c) ∈ shortEscapes) :
      PieceSpelled ['\\', letter] (.char c)
  | unit {a b c d : Char} {h i j k : Nat} (first : IsHexDigit a h) (second : IsHexDigit b i)
      (third : IsHexDigit c j) (last : IsHexDigit d k) :
      PieceSpelled ['\\', 'u', a, b, c, d] (.unit (h * 4096 + i * 256 + j * 16 + k))

inductive PiecesSpelled : List Char → List Piece → Prop
  | nil : PiecesSpelled [] []
  | cons {spelled rest : List Char} {piece : Piece} {pieces : List Piece}
      (first : PieceSpelled spelled piece) (more : PiecesSpelled rest pieces) :
      PiecesSpelled (spelled ++ rest) (piece :: pieces)

theorem IsHexDigit.lt (digit : IsHexDigit c n) : n < 16 := by
  rcases digit with small | capital
  · exact (List.getElem?_eq_some_iff.1 small).1
  · exact (List.getElem?_eq_some_iff.1 capital).1

theorem IsHexDigit.hexDigit? (digit : IsHexDigit c n) : hexDigit? c = some n := by
  have all : ∀ n < 16, "0123456789abcdef".toList[n]?.bind Json.hexDigit? = some n ∧
      "0123456789ABCDEF".toList[n]?.bind Json.hexDigit? = some n := by decide
  obtain ⟨lower, upper⟩ := all n digit.lt
  rcases digit with small | capital
  · rwa [small] at lower
  · rwa [capital] at upper

theorem shortEscape?_of_mem {letter : Char} (listed : (letter, c) ∈ shortEscapes) :
    shortEscape? letter = some c ∧ letter ≠ 'u' := by
  have all : ∀ pair ∈ shortEscapes, shortEscape? pair.1 = some pair.2 ∧ pair.1 ≠ 'u' := by decide
  exact all _ listed

theorem hexUnit?_of_isHexDigit {a b c d : Char} {h i j k : Nat} (first : IsHexDigit a h)
    (second : IsHexDigit b i) (third : IsHexDigit c j) (last : IsHexDigit d k) :
    hexUnit? a b c d = some (h * 4096 + i * 256 + j * 16 + k) := by
  have value : ((h * 16 + i) * 16 + j) * 16 + k = h * 4096 + i * 256 + j * 16 + k := by omega
  simp only [hexUnit?, first.hexDigit?, second.hexDigit?, third.hexDigit?, last.hexDigit?, ← value]
  rfl

theorem PieceSpelled.readPieces {spelled : List Char} {piece : Piece}
    (first : PieceSpelled spelled piece) (rest : List Char) :
    readPieces (spelled ++ rest) = (readPieces rest).map (push piece) := by
  cases first with
  | @plain c visible bare =>
    have code : ¬c.toNat < 0x20 := by omega
    rw [List.singleton_append, Json.readPieces, if_neg code]
    · exact bare.1
    · exact fun _ _ _ _ _ same _ => bare.2 same
    · exact fun _ _ same _ => bare.2 same
  | @short letter c listed =>
    obtain ⟨stands, other⟩ := shortEscape?_of_mem listed
    rw [List.cons_append, List.singleton_append, Json.readPieces, stands]
    exact fun _ _ _ _ _ same _ => other same
  | unit first second third last =>
    simp only [List.cons_append, List.nil_append]
    rw [Json.readPieces, hexUnit?_of_isHexDigit first second third last]

theorem PiecesSpelled.readPieces {spelled : List Char} {pieces : List Piece}
    (all : PiecesSpelled spelled pieces) (rest : List Char) :
    readPieces (spelled ++ '"' :: rest) = some (pieces, rest) := by
  induction all with
  | nil => rfl
  | cons first more ih =>
    rw [List.append_assoc, first.readPieces, ih]
    rfl

/-- The text that pieces make: a unit is a character, or two units are the halves of one. -/
inductive Joins : List Piece → List Char → Prop
  | nil : Joins [] []
  | char {c : Char} {pieces : List Piece} {text : List Char} (more : Joins pieces text) :
      Joins (.char c :: pieces) (c :: text)
  | unit {c : Char} {pieces : List Piece} {text : List Char} (narrow : c.toNat < 0x10000)
      (more : Joins pieces text) : Joins (.unit c.toNat :: pieces) (c :: text)
  | pair {c : Char} {pieces : List Piece} {text : List Char} (wide : 0x10000 ≤ c.toNat)
      (more : Joins pieces text) :
      Joins (.unit (0xD800 + (c.toNat - 0x10000) / 0x400) ::
        .unit (0xDC00 + (c.toNat - 0x10000) % 0x400) :: pieces) (c :: text)

theorem isLeading_iff : isLeading n = true ↔ 0xD800 ≤ n ∧ n < 0xDC00 := by
  simp only [isLeading, Bool.and_eq_true, decide_eq_true_eq]

theorem isTrailing_iff : isTrailing n = true ↔ 0xDC00 ≤ n ∧ n < 0xE000 := by
  simp only [isTrailing, Bool.and_eq_true, decide_eq_true_eq]

theorem toNat_paired {m : Nat} (leading : isLeading n = true) (trailing : isTrailing m = true) :
    (paired n m).toNat = 0x10000 + (n - 0xD800) * 0x400 + (m - 0xDC00) := by
  rw [isLeading_iff] at leading
  rw [isTrailing_iff] at trailing
  exact Text.toNat_ofNat (.inr (by omega))

theorem joinPieces_unit (leading : ¬isLeading n = true) (trailing : ¬isTrailing n = true) :
    joinPieces (.unit n :: pieces) = (joinPieces pieces).map (Char.ofNat n :: ·) := by
  cases pieces with
  | nil => simp [joinPieces, leading, trailing]
  | cons piece pieces => cases piece <;> simp [joinPieces, leading, trailing]

theorem Joins.ofNat (narrow : n < 0x10000) (leading : ¬isLeading n = true)
    (trailing : ¬isTrailing n = true) (more : Joins pieces text) :
    Joins (.unit n :: pieces) (Char.ofNat n :: text) := by
  rw [isLeading_iff] at leading
  rw [isTrailing_iff] at trailing
  have code : (Char.ofNat n).toNat = n := Text.toNat_ofNat (by unfold Nat.isValidChar; omega)
  have joins := Joins.unit (c := Char.ofNat n) (by omega) more
  rwa [code] at joins

theorem Joins.paired {m : Nat} (leading : isLeading n = true) (trailing : isTrailing m = true)
    (more : Joins pieces text) : Joins (.unit n :: .unit m :: pieces) (paired n m :: text) := by
  have code := toNat_paired leading trailing
  rw [isLeading_iff] at leading
  rw [isTrailing_iff] at trailing
  have front : 0xD800 + ((Json.paired n m).toNat - 0x10000) / 0x400 = n := by omega
  have back : 0xDC00 + ((Json.paired n m).toNat - 0x10000) % 0x400 = m := by omega
  have joins := Joins.pair (c := Json.paired n m) (by omega) more
  rwa [front, back] at joins

theorem Joins.joinPieces_eq (joins : Joins pieces text) : joinPieces pieces = some text := by
  induction joins with
  | nil => rfl
  | char more ih =>
    rw [joinPieces, ih]
    rfl
  | @unit c pieces text narrow more ih =>
    have valid := Text.toNat_valid c
    rw [joinPieces_unit (by rw [isLeading_iff]; omega) (by rw [isTrailing_iff]; omega), ih,
      Char.ofNat_toNat]
    rfl
  | @pair c pieces text wide more ih =>
    have valid := Text.toNat_valid c
    have leading : isLeading (0xD800 + (c.toNat - 0x10000) / 0x400) = true := by
      rw [isLeading_iff]
      omega
    have trailing : isTrailing (0xDC00 + (c.toNat - 0x10000) % 0x400) = true := by
      rw [isTrailing_iff]
      omega
    have code := toNat_paired leading trailing
    have whole : Json.paired (0xD800 + (c.toNat - 0x10000) / 0x400)
        (0xDC00 + (c.toNat - 0x10000) % 0x400) = c := Char.toNat_inj.1 (by omega)
    rw [joinPieces, if_pos leading, if_pos trailing, ih, whole]
    rfl

theorem joinPieces_eq_some_iff (units : ∀ n, .unit n ∈ pieces → n < 0x10000) :
    joinPieces pieces = some text ↔ Joins pieces text := by
  refine ⟨fun joined => ?_, Joins.joinPieces_eq⟩
  fun_induction joinPieces pieces generalizing text with
  | case1 =>
    cases joined
    exact .nil
  | case2 c rest ih =>
    obtain ⟨after, more, rfl⟩ := Option.map_eq_some_iff.1 joined
    exact .char (ih (fun n member => units n (by simp [member])) more)
  | case3 n m rest leading trailing ih =>
    obtain ⟨after, more, rfl⟩ := Option.map_eq_some_iff.1 joined
    exact .paired leading trailing (ih (fun n member => units n (by simp [member])) more)
  | case4 => cases joined
  | case5 => cases joined
  | case6 n m rest leading trailing ih =>
    obtain ⟨after, more, rfl⟩ := Option.map_eq_some_iff.1 joined
    exact .ofNat (units n (by simp)) leading trailing
      (ih (fun n member => units n (List.mem_cons_of_mem _ member)) more)
  | case7 => cases joined
  | case8 n rest last whole ih =>
    rw [Bool.or_eq_true, not_or] at whole
    obtain ⟨after, more, rfl⟩ := Option.map_eq_some_iff.1 joined
    exact .ofNat (units n (by simp)) whole.1 whole.2
      (ih (fun n member => units n (by simp [member])) more)

/-- A string with its quotes, and the text that its pieces make, if there is one. -/
inductive IsString : List Char → Option String → Prop
  | text {spelled text : List Char} {pieces : List Piece} (all : PiecesSpelled spelled pieces)
      (joins : Joins pieces text) : IsString ('"' :: spelled ++ ['"']) (some (String.ofList text))
  | unpaired {spelled : List Char} {pieces : List Piece} (all : PiecesSpelled spelled pieces)
      (unjoined : ∀ text, ¬Joins pieces text) : IsString ('"' :: spelled ++ ['"']) none

theorem PiecesSpelled.unit_lt {spelled : List Char} (all : PiecesSpelled spelled pieces) :
    ∀ n, .unit n ∈ pieces → n < 0x10000 := by
  induction all with
  | nil => nofun
  | cons first more ih =>
    intro n member
    rcases List.mem_cons.1 member with rfl | later
    · cases first with
      | unit first second third last =>
        have := first.lt
        have := second.lt
        have := third.lt
        have := last.lt
        omega
    · exact ih n later

theorem IsString.readText {spelled : List Char} {name : Option String}
    (string : IsString spelled name) (rest : List Char) :
    ∃ body, spelled = '"' :: body ∧ readText (body ++ rest) = some (name, rest) := by
  cases string with
  | @text spelled text pieces all joins =>
    refine ⟨spelled ++ ['"'], rfl, ?_⟩
    rw [Json.readText, List.append_assoc, List.singleton_append, all.readPieces]
    simp only [Option.map_some, joins.joinPieces_eq]
  | @unpaired spelled pieces all unjoined =>
    refine ⟨spelled ++ ['"'], rfl, ?_⟩
    have none : joinPieces pieces = none := Option.eq_none_iff_forall_ne_some.2
      fun text joined => unjoined text ((joinPieces_eq_some_iff all.unit_lt).1 joined)
    rw [Json.readText, List.append_assoc, List.singleton_append, all.readPieces]
    simp only [Option.map_some, none, Option.map_none]

theorem isHexDigit_digitChar (small : n < 16) : IsHexDigit (Nat.digitChar n) n := by
  have all : ∀ n < 16, IsHexDigit (Nat.digitChar n) n := by decide
  exact all n small

theorem pieceSpelled_escapedChar (c : Char) :
    ∃ piece, PieceSpelled (escapedChar c) piece ∧
      ∀ pieces text, Joins pieces text → Joins (piece :: pieces) (c :: text) := by
  have short : ∀ letter, (letter, c) ∈ shortEscapes → ∃ piece, PieceSpelled ['\\', letter] piece ∧
      ∀ pieces text, Joins pieces text → Joins (piece :: pieces) (c :: text) :=
    fun letter listed => ⟨.char c, .short listed, fun _ _ => .char⟩
  by_cases quoted : c = '"' ∨ c = '\\'
  · rw [escapedChar, if_pos quoted]
    rcases quoted with rfl | rfl <;> exact short _ (by decide)
  by_cases controlled : c ∈ ['\x08', '\x0c', '\n', '\r', '\t']
  · simp only [List.mem_cons, List.not_mem_nil, or_false] at controlled
    rcases controlled with rfl | rfl | rfl | rfl | rfl <;> exact short _ (by decide)
  simp only [List.mem_cons, List.not_mem_nil, or_false, not_or] at controlled
  obtain ⟨back, feed, line, carriage, tab⟩ := controlled
  rw [escapedChar, if_neg quoted, if_neg back, if_neg feed, if_neg line, if_neg carriage,
    if_neg tab]
  by_cases hidden : c.toNat < 0x20
  · rw [if_pos hidden]
    have unit := PieceSpelled.unit (a := '0') (b := '0') (h := 0) (i := 0) (by decide) (by decide)
      (isHexDigit_digitChar (n := c.toNat / 16) (by omega))
      (isHexDigit_digitChar (n := c.toNat % 16) (by omega))
    have value : 0 * 4096 + 0 * 256 + c.toNat / 16 * 16 + c.toNat % 16 = c.toNat := by omega
    rw [value] at unit
    exact ⟨.unit c.toNat, unit, fun _ _ => .unit (by omega)⟩
  · rw [if_neg hidden]
    exact ⟨.char c, .plain (by omega) (not_or.1 quoted), fun _ _ => .char⟩

theorem piecesSpelled_flatMap (text : List Char) :
    ∃ pieces, PiecesSpelled (text.flatMap escapedChar) pieces ∧ Joins pieces text := by
  induction text with
  | nil => exact ⟨[], .nil, .nil⟩
  | cons c text ih =>
    obtain ⟨pieces, all, joins⟩ := ih
    obtain ⟨piece, first, front⟩ := pieceSpelled_escapedChar c
    exact ⟨piece :: pieces, .cons first all, front pieces text joins⟩

theorem isString_writeText (s : String) : IsString (writeText s.toList) (some s) := by
  obtain ⟨pieces, all, joins⟩ := piecesSpelled_flatMap s.toList
  have string := IsString.text all joins
  rwa [String.ofList_toList] at string

end StanzaDelivery.Json
