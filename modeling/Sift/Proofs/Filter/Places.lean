import Sift.Proofs.Filter.Scan
import Sift.Proofs.Text.Blanks

/-!
# Where tokens stand

Every token of a text stands where its span says: the bytes that the span covers are the characters
of the token (`covers_of_mem_scanFrom`).  And the text of an expression is of a certain form, which
`IsExpression` states without the scanner (`isExpression_of_mem_scanFrom`).

White space alone holds no token, and a text of that form between white space is a single one
(`scanFrom_of_blank`, `scanFrom_of_isExpression`).
-/

namespace Sift

/-! ## Bytes -/

namespace Text

/-- Only the empty text has no bytes. -/
theorem eq_nil_of_byteLength_eq_zero {cs : List Char} (h : byteLength cs = 0) : cs = [] := by
  cases cs with
  | nil => rfl
  | cons c cs =>
    have hpos := c.utf8Size_pos
    rw [byteLength] at h
    omega

end Text

namespace Filter

/-! ## Spans -/

/-- The span covers a part of a text that starts at byte `offset`. -/
def Span.Covers (span : Span) (offset : Nat) (text part : List Char) : Prop :=
  ∃ before after, text = before ++ part ++ after ∧
    span.start = offset + Text.byteLength before ∧
    span.stop = span.start + Text.byteLength part

/-- A part that is covered keeps its place when some text is put before it. -/
theorem Span.Covers.append_left {span : Span} {offset : Nat} {text part : List Char}
    (front : List Char) (h : span.Covers (offset + Text.byteLength front) text part) :
    span.Covers offset (front ++ text) part := by
  obtain ⟨before, after, rfl, hstart, hstop⟩ := h
  refine ⟨front ++ before, after, by simp, ?_, hstop⟩
  rw [hstart, Token.byteLength_append, Nat.add_assoc]

theorem Span.Covers.append_right {span : Span} {offset : Nat} {text part : List Char}
    (h : span.Covers offset text part) (back : List Char) :
    span.Covers offset (text ++ back) part := by
  obtain ⟨before, after, rfl, hstart, hstop⟩ := h
  exact ⟨before, after ++ back, by simp, hstart, hstop⟩

/-- A part that starts behind some text in front keeps its place when that text is taken away. -/
theorem Span.Covers.of_append {span : Span} {offset : Nat} {front text part : List Char}
    (h : span.Covers offset (front ++ text) part)
    (hbehind : offset + Text.byteLength front ≤ span.start) :
    span.Covers (offset + Text.byteLength front) text part := by
  obtain ⟨before, after, htext, hstart, hstop⟩ := h
  rw [List.append_assoc] at htext
  rcases List.append_eq_append_iff.mp htext with ⟨inner, rfl, rfl⟩ | ⟨inner, rfl, hinner⟩
  · refine ⟨inner, after, by simp, ?_, hstop⟩
    rw [hstart, Token.byteLength_append, Nat.add_assoc]
  · rw [Token.byteLength_append] at hbehind ⊢
    have hnone : inner = [] := Text.eq_nil_of_byteLength_eq_zero (by omega)
    subst hnone
    exact ⟨[], after, by simpa using hinner.symm, by simp [hstart, Text.byteLength], hstop⟩

theorem size_utf8Encode (cs : List Char) : cs.utf8Encode.size = Text.byteLength cs := by
  induction cs with
  | nil => rfl
  | cons c cs ih =>
    rw [List.utf8Encode_cons, ByteArray.size_append, ih, List.utf8Encode_singleton,
      List.size_toByteArray, String.length_utf8EncodeChar, Text.byteLength]

theorem utf8ByteSize_ofList (cs : List Char) :
    (String.ofList cs).utf8ByteSize = Text.byteLength cs := by
  rw [String.utf8ByteSize, String.toByteArray_ofList, size_utf8Encode]

/-- A span that covers a part of a text ends within the text. -/
theorem Span.Covers.stop_le {span : Span} {text : String} {part : List Char}
    (h : span.Covers 0 text.toList part) : span.stop ≤ text.utf8ByteSize := by
  obtain ⟨before, after, htext, hstart, hstop⟩ := h
  rw [← String.ofList_toList (s := text), utf8ByteSize_ofList, htext, Token.byteLength_append,
    Token.byteLength_append]
  omega

/-- The bytes of a text at a span that covers a part are the bytes of the part. -/
theorem Span.Covers.extract {span : Span} {text part : String}
    (h : span.Covers 0 text.toList part.toList) :
    text.toUTF8.extract span.start span.stop = part.toUTF8 := by
  obtain ⟨before, after, htext, hstart, hstop⟩ := h
  have htextBytes : text.toUTF8 = before.utf8Encode ++ part.toUTF8 ++ after.utf8Encode := by
    rw [← String.ofList_toList (s := text), htext, ← String.ofList_toList (s := part)]
    simp only [String.toUTF8_eq_toByteArray, String.toByteArray_ofList, String.toList_ofList,
      List.utf8Encode_append]
  have hpart : part.toUTF8.size = Text.byteLength part.toList := by
    rw [← size_utf8Encode, ← String.toByteArray_ofList, String.ofList_toList]
    rfl
  have hstopSize : span.stop = (before.utf8Encode ++ part.toUTF8).size := by
    rw [ByteArray.size_append, size_utf8Encode, hpart]
    omega
  rw [htextBytes, hstopSize, ByteArray.extract_append_size_left]
  apply ByteArray.extract_append_eq_right
  · rw [size_utf8Encode]
    omega
  · rw [ByteArray.size_append]

namespace Token

theorem text_of_structural? {c : Char} {kind : Kind} (h : structural? c = some kind) :
    kind.text.toList = [c] := by
  unfold structural? at h
  split at h <;> cases h <;> rfl

/-- The token of a run is the expression that trimming leaves of it, if there is one. -/
theorem mem_ofRun {offset : Nat} {run : List Char} {token : Token} (h : token ∈ ofRun offset run) :
    Text.trim run ≠ [] ∧ token.kind = .expression (String.ofList (Text.trim run)) ∧
      token.span.Covers offset run (Text.trim run) := by
  simp only [ofRun] at h
  split at h
  · simp at h
  · rename_i hne
    obtain rfl := List.mem_singleton.mp h
    obtain ⟨after, hrun, -⟩ := Text.exists_trim run
    exact ⟨hne, rfl, _, after, hrun, rfl, rfl⟩

/-- A token covers its own characters. -/
theorem covers_of_mem_scanFrom {offset : Nat} {cs : List Char} {token : Token}
    (h : token ∈ scanFrom offset cs) : token.span.Covers offset cs token.kind.text.toList := by
  fun_induction scanFrom offset cs with
  | case1 => simp at h
  | case2 offset c rest kind hc ih =>
    rcases List.mem_cons.mp h with rfl | hrest
    · refine ⟨[], rest, ?_, by simp [Text.byteLength], ?_⟩ <;> rw [text_of_structural? hc]
      · rfl
      · simp [Text.byteLength]
    · have hcovers := ih hrest
      exact Span.Covers.append_left [c] (by simpa [Text.byteLength] using hcovers)
  | case3 offset c rest hc run ih =>
    have hcs : c :: rest = run ++ rest.dropWhile isPlain := by
      simp [run, List.takeWhile_append_dropWhile]
    rw [hcs]
    rcases List.mem_append.mp h with hrun | hrest
    · obtain ⟨-, hkind, hcovers⟩ := mem_ofRun hrun
      rw [hkind, Kind.text, String.toList_ofList]
      exact hcovers.append_right _
    · exact (ih hrest).append_left run

end Token

/-! ## Expressions -/

/-- Whether a text can be an expression: it is not empty, it has no white space at either end, and
there is no connective and no bracket in it. -/
structure IsExpression (text : String) : Prop where
  nonempty : text ≠ ""
  head_not_blank : ∀ c ∈ text.toList.head?, Text.isBlank c = false
  last_not_blank : ∀ c ∈ text.toList.getLast?, Text.isBlank c = false
  plain : ∀ c ∈ text.toList, c ∉ ['(', ')', '&', '|']

-- A quantifier over characters would be decided by trying all characters there are.
theorem isExpression_iff_all {text : String} :
    IsExpression text ↔ text ≠ "" ∧ text.toList.head?.all (!Text.isBlank ·) ∧
      text.toList.getLast?.all (!Text.isBlank ·) ∧
      text.toList.all (· ∉ ['(', ')', '&', '|']) := by
  simp only [Option.all_eq_true, List.all_eq_true, Bool.not_eq_true', decide_eq_true_eq]
  constructor
  · rintro ⟨hne, hhead, hlast, hplain⟩
    exact ⟨hne, hhead, hlast, hplain⟩
  · rintro ⟨hne, hhead, hlast, hplain⟩
    exact ⟨hne, hhead, hlast, hplain⟩

instance (text : String) : Decidable (IsExpression text) :=
  decidable_of_iff' _ isExpression_iff_all

namespace Token

theorem isPlain_iff {c : Char} : isPlain c ↔ c ∉ ['(', ')', '&', '|'] := by
  unfold isPlain structural?
  split <;> simp_all

theorem isPlain_of_mem_run {c d : Char} {rest : List Char} (hc : structural? c = none)
    (h : d ∈ c :: rest.takeWhile isPlain) : isPlain d := by
  rcases List.mem_cons.mp h with rfl | hrest
  · simp [isPlain, hc]
  · exact List.all_eq_true.mp List.all_takeWhile d hrest

/-- What trimming leaves of a run of plain characters is an expression. -/
theorem isExpression_trim {run : List Char} (hplain : ∀ c ∈ run, isPlain c)
    (hne : Text.trim run ≠ []) : IsExpression (String.ofList (Text.trim run)) := by
  refine ⟨by simpa using hne, ?_, ?_, ?_⟩ <;> rw [String.toList_ofList]
  · exact Text.isBlank_head?_trim run
  · exact Text.isBlank_getLast?_trim run
  · intro c hc
    exact isPlain_iff.mp (hplain c ((Text.trim_sublist run).subset hc))

/-- The text of an expression among the tokens of a text is one. -/
theorem isExpression_of_mem_scanFrom {offset : Nat} {cs : List Char} {token : Token}
    {text : String} (h : token ∈ scanFrom offset cs) (hkind : token.kind = .expression text) :
    IsExpression text := by
  fun_induction scanFrom offset cs with
  | case1 => simp at h
  | case2 offset c rest kind hc ih =>
    rcases List.mem_cons.mp h with rfl | hrest
    · obtain rfl : kind = .expression text := hkind
      unfold structural? at hc
      split at hc <;> cases hc
    · exact ih hrest
  | case3 offset c rest hc run ih =>
    rcases List.mem_append.mp h with hrun | hrest
    · obtain ⟨hne, hexpression, -⟩ := mem_ofRun hrun
      obtain rfl : String.ofList (Text.trim run) = text := by
        rw [hexpression] at hkind
        exact Kind.expression.inj hkind
      exact isExpression_trim (fun d hd => isPlain_of_mem_run hc hd) hne
    · exact ih hrest

/-! ## Runs on their own -/

variable {cs : List Char}

theorem isPlain_of_isBlank {c : Char} (h : Text.isBlank c) : isPlain c := by
  rw [isPlain_iff]
  intro hmem
  simp only [List.mem_cons, List.not_mem_nil, or_false] at hmem
  rcases hmem with rfl | rfl | rfl | rfl <;> exact absurd h (by decide)

/-- A text of plain characters is a single run. -/
theorem scanFrom_of_plain (offset : Nat) (h : ∀ c ∈ cs, isPlain c) :
    scanFrom offset cs = ofRun offset cs := by
  cases cs with
  | nil => simp [scanFrom, ofRun, Text.trim, Text.skipBlanks, Text.dropTrailingBlanks]
  | cons c rest =>
    have hc : structural? c = none := by simpa [isPlain] using h c (by simp)
    have hrest : ∀ d ∈ rest, isPlain d := fun d hd => h d (by simp [hd])
    have htake : rest.takeWhile isPlain = rest := List.takeWhile_eq_self_iff.mpr hrest
    have hdrop : rest.dropWhile isPlain = [] := List.dropWhile_eq_nil_iff.mpr hrest
    rw [scanFrom_plain hc, htake, hdrop, scanFrom, List.append_nil]

/-- White space holds no token. -/
theorem scanFrom_of_blank (offset : Nat) (h : ∀ c ∈ cs, Text.isBlank c) :
    scanFrom offset cs = [] := by
  have htrim : Text.trim cs = [] := by
    have hskip : Text.skipBlanks cs = [] := List.dropWhile_eq_nil_iff.mpr h
    rw [Text.trim, hskip]
    rfl
  rw [scanFrom_of_plain offset fun c hc => isPlain_of_isBlank (h c hc), ofRun]
  simp [htrim]

/-- An expression with white space around it is a single token. -/
theorem scanFrom_of_isExpression (offset : Nat) {text : String} (h : IsExpression text)
    {before after : List Char} (hbefore : ∀ c ∈ before, Text.isBlank c)
    (hafter : ∀ c ∈ after, Text.isBlank c) :
    scanFrom offset (before ++ text.toList ++ after) =
      [⟨.expression text, ⟨offset + Text.byteLength before,
        offset + Text.byteLength before + Text.byteLength text.toList⟩⟩] := by
  have hplain : ∀ c ∈ before ++ text.toList ++ after, isPlain c := by
    intro c hc
    simp only [List.mem_append] at hc
    rcases hc with (hc | hc) | hc
    · exact isPlain_of_isBlank (hbefore c hc)
    · exact isPlain_iff.mpr (h.plain c hc)
    · exact isPlain_of_isBlank (hafter c hc)
  have hne : text.toList ≠ [] := by simpa using h.nonempty
  have htrim : Text.trim (before ++ text.toList ++ after) = text.toList :=
    Text.trim_of_blanks hbefore hafter hne h.head_not_blank h.last_not_blank
  have hstart : (before ++ text.toList ++ after).takeWhile Text.isBlank = before := by
    obtain ⟨c, rest, htext⟩ := List.exists_cons_of_ne_nil hne
    have hc : Text.isBlank c = false := h.head_not_blank c (by simp [htext])
    rw [List.append_assoc, List.takeWhile_append_of_pos hbefore, htext]
    simp [hc]
  rw [scanFrom_of_plain offset hplain]
  simp only [ofRun, htrim, hstart, if_neg hne, String.ofList_toList]

end Token

end Filter

end Sift
