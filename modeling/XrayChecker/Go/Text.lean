import XrayChecker.Go.Unicode

/-
Go strings that hold valid UTF-8, as the list of their runes, and the part of
Go's `strings`, `strconv` and `sort` packages that works on them.  JSON never
decodes to anything but valid UTF-8, so this is the whole domain of the code
that reads its strings from JSON documents.
-/

namespace Go

/-- A Go string holding valid UTF-8, rune by rune.  The order of the runes is
the byte order of the encodings. -/
abbrev Text := List Char

instance textOfString : Coe String Text := ⟨String.toList⟩

instance lawfulText : LawfulBEq Text := inferInstance

/-- `len(s)`, the number of bytes. -/
def byteLen (s : Text) : Nat :=
  (s.map Char.utf8Size).sum

/-- `utf8.RuneCountInString`. -/
def runeCount (s : Text) : Nat :=
  s.length

/-- `strings.HasPrefix`. -/
def hasPrefix (s pre : Text) : Bool :=
  pre.isPrefixOf s

/-- `strings.HasSuffix`. -/
def hasSuffix (s suffix : Text) : Bool :=
  suffix.isSuffixOf s

/-- `strings.TrimSuffix`. -/
def trimSuffix (s suffix : Text) : Text :=
  if hasSuffix s suffix then s.take (s.length - suffix.length) else s

/-- `strings.Contains`. -/
def contains : Text → Text → Bool
  | [], sub => sub.isEmpty
  | c :: rest, sub => sub.isPrefixOf (c :: rest) || contains rest sub

/-- `strings.ContainsAny`. -/
def containsAny (s chars : Text) : Bool :=
  s.any fun c => chars.elem c

/-- `strings.TrimSpace`. -/
def trimSpace (s : Text) : Text :=
  (s.dropWhile isSpace).rdropWhile isSpace

/-- `strings.ToLower`. -/
def toLower (s : Text) : Text :=
  s.map toLowerRune

/-- The ASCII representative of a rune under simple case folding.  Besides the
two letter cases, the Kelvin sign folds to `k` and the long s to `s`. -/
def foldRune (c : Char) : Char :=
  if c = 'K' then 'k' else if c = 'ſ' then 's' else c.toLower

/-- `strings.EqualFold` against a name made of ASCII runes. -/
def equalFold (s name : Text) : Bool :=
  s.map foldRune == name.map foldRune

/-- `strconv.Itoa` on a non-negative number. -/
def itoa (n : Nat) : Text :=
  Nat.toDigits 10 n

/-- `strconv.Itoa`. -/
def itoaInt (n : Int) : Text :=
  if n < 0 then '-' :: itoa n.natAbs else itoa n.natAbs

/-- `strings.Join`. -/
def join (parts : List Text) (separator : Text) : Text :=
  List.intercalate separator parts

/-- `sort.Strings`. -/
def sortStrings (texts : List Text) : List Text :=
  texts.insertionSort (· ≤ ·)

/-- The first `old`/`new` pair whose `old` starts the text. -/
def matchPair (pairs : List (Text × Text)) (s : Text) : Option (Text × Text) :=
  pairs.find? fun pair => pair.1.isPrefixOf s

/-- The scan of `strings.NewReplacer(...).Replace` for non-empty old strings:
matches are taken from left to right without overlap, and at one place the
pairs are tried in argument order.  `skip` counts the runes of the last match
still to be passed over. -/
def replaceScan (pairs : List (Text × Text)) : Nat → Text → Text
  | _, [] => []
  | skip + 1, _ :: rest => replaceScan pairs skip rest
  | 0, c :: rest =>
      match matchPair pairs (c :: rest) with
      | some (old, new) => new ++ replaceScan pairs (old.length - 1) rest
      | none => c :: replaceScan pairs 0 rest

/-- `strings.NewReplacer(pairs...).Replace(s)`. -/
def replacer (pairs : List (Text × Text)) (s : Text) : Text :=
  replaceScan pairs 0 s

/-- `strings.ReplaceAll` for a non-empty old string. -/
def replaceAll (s old new : Text) : Text :=
  replacer [(old, new)] s

theorem hasPrefix_iff {s pre : Text} :
    hasPrefix s pre = true ↔ ∃ rest, s = pre ++ rest := by
  rw [hasPrefix, List.isPrefixOf_iff_prefix]
  constructor
  · rintro ⟨rest, rfl⟩
    exact ⟨rest, rfl⟩
  · rintro ⟨rest, rfl⟩
    exact ⟨rest, rfl⟩

theorem hasSuffix_iff {s suffix : Text} :
    hasSuffix s suffix = true ↔ ∃ front, s = front ++ suffix := by
  rw [hasSuffix, List.isSuffixOf_iff_suffix]
  constructor
  · rintro ⟨front, rfl⟩
    exact ⟨front, rfl⟩
  · rintro ⟨front, rfl⟩
    exact ⟨front, rfl⟩

@[simp] theorem hasPrefix_append (pre rest : Text) :
    hasPrefix (pre ++ rest) pre = true :=
  hasPrefix_iff.mpr ⟨rest, rfl⟩

@[simp] theorem hasSuffix_append (front suffix : Text) :
    hasSuffix (front ++ suffix) suffix = true :=
  hasSuffix_iff.mpr ⟨front, rfl⟩

@[simp] theorem trimSuffix_append (front suffix : Text) :
    trimSuffix (front ++ suffix) suffix = front := by
  simp [trimSuffix]

theorem containsAny_eq_false_iff {s chars : Text} :
    containsAny s chars = false ↔ ∀ c ∈ s, c ∉ chars := by
  simp [containsAny]

theorem contains_iff_sublist {s sub : Text} :
    contains s sub = true ↔ sub <:+: s := by
  induction s with
  | nil => simp [contains]
  | cons c rest ih =>
      rw [contains, Bool.or_eq_true, ih, List.isPrefixOf_iff_prefix,
        List.infix_cons_iff]

theorem contains_singleton {s : Text} {c : Char} :
    contains s [c] = true ↔ c ∈ s := by
  rw [contains_iff_sublist, List.singleton_infix_iff]

theorem dropWhile_rdropWhile_dropWhile {α : Type} (p : α → Bool)
    (s : List α) :
    ((s.dropWhile p).rdropWhile p).dropWhile p =
      (s.dropWhile p).rdropWhile p := by
  obtain ⟨tail, htail⟩ := List.rdropWhile_prefix p (l := s.dropWhile p)
  cases hrest : (s.dropWhile p).rdropWhile p with
  | nil => rfl
  | cons c rest =>
      have hhead := List.head?_dropWhile_not p s
      rw [← htail, hrest] at hhead
      simp only [List.cons_append, List.head?_cons] at hhead
      rw [List.dropWhile_cons_of_neg (by simpa using hhead)]

@[simp] theorem trimSpace_idem (s : Text) :
    trimSpace (trimSpace s) = trimSpace s := by
  simp only [trimSpace, dropWhile_rdropWhile_dropWhile,
    List.rdropWhile_idempotent]

example : replacer [("{a}", "1")] "x{a}y" = "x1y" := by decide

end Go
