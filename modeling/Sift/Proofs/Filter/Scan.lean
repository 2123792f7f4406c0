import Sift.Filter.Token

/-!
# Scanning a text in parts

The tokens of a text that a structural character cuts in two are those of the first part, the
token of that character, and those of the second part (`scanFrom_append_structural`).  A part that
starts at another byte has the same tokens at other places, so their kinds depend on the
characters alone: `kinds` lists them, and `kinds_append_structural` takes a list of kinds apart at
a structural character.
-/

namespace Sift.Filter.Token

/-! ## Runs of characters -/

section Runs

variable {α : Type} {p : α → Bool} {c : α}

/-- A run ends where it ended if an element that stops it is put after the list. -/
theorem takeWhile_append_cons (hc : p c = false) (xs ys : List α) :
    (xs ++ c :: ys).takeWhile p = xs.takeWhile p := by
  induction xs with
  | nil => simp [hc]
  | cons x xs ih => by_cases hx : p x <;> simp [hx, ih]

/-- What follows a run keeps what is put after the list. -/
theorem dropWhile_append_cons (hc : p c = false) (xs ys : List α) :
    (xs ++ c :: ys).dropWhile p = xs.dropWhile p ++ c :: ys := by
  induction xs with
  | nil => simp [hc]
  | cons x xs ih => by_cases hx : p x <;> simp [hx, ih]

end Runs

/-- Lengths add up. -/
theorem byteLength_append (xs ys : List Char) :
    Text.byteLength (xs ++ ys) = Text.byteLength xs + Text.byteLength ys := by
  induction xs with
  | nil => simp [Text.byteLength]
  | cons x xs ih => simp only [List.cons_append, Text.byteLength, ih, Nat.add_assoc]

/-- A run with what follows it is the whole list. -/
theorem byteLength_takeWhile_add_dropWhile (p : Char → Bool) (cs : List Char) :
    Text.byteLength (cs.takeWhile p) + Text.byteLength (cs.dropWhile p) = Text.byteLength cs := by
  rw [← byteLength_append, List.takeWhile_append_dropWhile]

/-! ## Tokens -/

variable {offset : Nat} {c : Char} {rest : List Char}

/-- A structural character in front is a token. -/
theorem scanFrom_structural {kind : Kind} (h : structural? c = some kind) :
    scanFrom offset (c :: rest) =
      ⟨kind, ⟨offset, offset + c.utf8Size⟩⟩ :: scanFrom (offset + c.utf8Size) rest := by
  rw [scanFrom, h]

/-- A plain character in front starts a run. -/
theorem scanFrom_plain (h : structural? c = none) :
    scanFrom offset (c :: rest) =
      ofRun offset (c :: rest.takeWhile isPlain) ++
        scanFrom (offset + Text.byteLength (c :: rest.takeWhile isPlain))
          (rest.dropWhile isPlain) := by
  rw [scanFrom, h]

/-- The tokens of a text are those of the parts on both sides of a structural character, with the
token of that character in between. -/
theorem scanFrom_append_structural {kind : Kind} (h : structural? c = some kind)
    (offset : Nat) (cs rest : List Char) :
    scanFrom offset (cs ++ c :: rest) =
      scanFrom offset cs ++
        ⟨kind, ⟨offset + Text.byteLength cs, offset + Text.byteLength cs + c.utf8Size⟩⟩ ::
          scanFrom (offset + Text.byteLength cs + c.utf8Size) rest := by
  have hc : isPlain c = false := by simp [isPlain, h]
  fun_induction scanFrom offset cs with
  | case1 offset =>
    rw [List.nil_append, scanFrom_structural h]
    simp [Text.byteLength]
  | case2 offset d ds kind' hd ih =>
    rw [List.cons_append, scanFrom_structural hd, ih]
    simp [Text.byteLength, Nat.add_assoc]
  | case3 offset d ds hd run ih =>
    -- The run ends before the structural character at the latest.
    rw [List.cons_append, scanFrom_plain hd, takeWhile_append_cons hc, dropWhile_append_cons hc,
      ih]
    have hlength : offset + Text.byteLength (d :: ds.takeWhile isPlain) +
        Text.byteLength (ds.dropWhile isPlain) = offset + Text.byteLength (d :: ds) := by
      have := byteLength_takeWhile_add_dropWhile isPlain ds
      simp only [Text.byteLength]
      omega
    simp only [run, hlength, List.append_assoc]

/-- The kinds of the tokens of a text. -/
def kinds (cs : List Char) : List Kind :=
  (scanFrom 0 cs).map Token.kind

/-- An expression does not depend on where its run starts. -/
theorem map_kind_ofRun (offset offset' : Nat) (run : List Char) :
    (ofRun offset run).map Token.kind = (ofRun offset' run).map Token.kind := by
  simp only [ofRun]
  split <;> rfl

/-- The kinds of tokens do not depend on where the text starts. -/
theorem map_kind_scanFrom (offset : Nat) (cs : List Char) :
    (scanFrom offset cs).map Token.kind = kinds cs := by
  suffices ∀ offset', (scanFrom offset cs).map Token.kind =
      (scanFrom offset' cs).map Token.kind from this 0
  fun_induction scanFrom offset cs with
  | case1 offset =>
    intro offset'
    rw [scanFrom]
  | case2 offset d ds kind hd ih =>
    intro offset'
    rw [scanFrom_structural hd, List.map_cons, List.map_cons, ih]
  | case3 offset d ds hd run ih =>
    intro offset'
    rw [scanFrom_plain hd, List.map_append, List.map_append, ih]
    exact congrArg (· ++ _) (map_kind_ofRun _ _ _)

@[simp] theorem kinds_nil : kinds [] = [] := by
  rw [kinds, scanFrom]
  rfl

/-- The kinds of tokens on both sides of a structural character. -/
theorem kinds_append_structural {kind : Kind} (h : structural? c = some kind)
    (cs rest : List Char) : kinds (cs ++ c :: rest) = kinds cs ++ kind :: kinds rest := by
  rw [kinds, scanFrom_append_structural h, List.map_append, List.map_cons, map_kind_scanFrom,
    map_kind_scanFrom]

/-- A structural character in front. -/
theorem kinds_cons_structural {kind : Kind} (h : structural? c = some kind)
    (rest : List Char) : kinds (c :: rest) = kind :: kinds rest := by
  have := kinds_append_structural h [] rest
  simpa using this

/-- A space alone holds no token. -/
@[simp] theorem kinds_space : kinds [' '] = [] := by
  rw [kinds, scanFrom_plain (by rfl)]
  simp [ofRun, scanFrom, Text.trim, Text.dropTrailingBlanks, Text.skipBlanks, Text.isBlank]

end Sift.Filter.Token
