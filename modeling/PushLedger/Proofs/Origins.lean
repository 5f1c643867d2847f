import Mathlib.Data.List.Infix
import PushLedger.Ledger.Operations
import PushLedger.Proofs.ByteOrder

/-!
# What logs show of an endpoint

Logs show an endpoint up to the first slash after its scheme and its authority. A path is hidden, and
so is whatever follows it. A query or a fragment that follows the authority at once is shown, up to
its own first slash: only a slash ends what is shown.

Where the cut falls can be found by a search of the bytes as well. The marks that are searched for
are ASCII, and no byte of another character is, so such a cut never divides a character.
-/

namespace PushLedger

namespace Text

/-- An ASCII character is encoded as one byte, its code point. -/
theorem encode_ascii (c : Char) (ascii : c.val.toNat ≤ 127) :
    String.utf8EncodeChar c = [UInt8.ofNat c.val.toNat] := by
  simp only [String.utf8EncodeChar, ascii, if_true]

/-- No byte of another character is ASCII. -/
theorem encode_high (c : Char) (high : ¬ c.val.toNat ≤ 127) :
    ∀ byte ∈ String.utf8EncodeChar c, 127 < byte.toNat := by
  intro byte member
  unfold String.utf8EncodeChar at member
  dsimp only at member
  rw [if_neg high] at member
  repeat' split at member
  all_goals
    simp only [List.mem_cons, List.not_mem_nil, or_false] at member
    rcases member with rfl | rfl | rfl | rfl <;> rw [UInt8.toNat_ofNat'] <;> omega

/-- An ASCII character is known by its byte. -/
theorem ascii_byte_inj (c d : Char) (asciiC : c.val.toNat ≤ 127) (asciiD : d.val.toNat ≤ 127) :
    UInt8.ofNat c.val.toNat = UInt8.ofNat d.val.toNat ↔ c = d := by
  constructor
  · intro same
    have bytes := congrArg UInt8.toNat same
    rw [UInt8.toNat_ofNat', UInt8.toNat_ofNat', Nat.mod_eq_of_lt (by omega),
      Nat.mod_eq_of_lt (by omega)] at bytes
    exact Char.ext (UInt32.toNat_inj.mp bytes)
  · rintro rfl
    rfl

/-- The bytes of ASCII characters come first among bytes exactly if the characters come first. -/
theorem encode_prefix_iff (mark chars : List Char) (ascii : ∀ c ∈ mark, c.val.toNat ≤ 127) :
    mark.flatMap String.utf8EncodeChar <+: chars.flatMap String.utf8EncodeChar ↔
      mark <+: chars := by
  induction mark generalizing chars with
  | nil => simp
  | cons a mark inductionHypothesis =>
    obtain ⟨asciiA, asciiMark⟩ := List.forall_mem_cons.mp ascii
    cases chars with
    | nil => simp [encode_ascii a asciiA]
    | cons c rest =>
      rw [List.flatMap_cons, List.flatMap_cons, encode_ascii a asciiA, List.cons_prefix_cons]
      by_cases asciiC : c.val.toNat ≤ 127
      · rw [encode_ascii c asciiC, List.singleton_append, List.singleton_append,
          List.cons_prefix_cons, ascii_byte_inj a c asciiA asciiC, inductionHypothesis rest asciiMark]
      · have high := encode_high c asciiC
        have apart : a ≠ c := fun same => asciiC (same ▸ asciiA)
        cases encoded : String.utf8EncodeChar c with
        | nil => exact absurd encoded String.utf8EncodeChar_ne_nil
        | cons first tail =>
          have above := high first (encoded ▸ List.mem_cons_self)
          have apartToo : UInt8.ofNat a.val.toNat ≠ first := by
            rintro rfl
            rw [UInt8.toNat_ofNat'] at above
            omega
          rw [List.singleton_append, List.cons_append, List.cons_prefix_cons]
          simp only [apart, apartToo, false_and]

/-- The position from which on a mark is found for the first time. -/
def find? (mark bytes : List UInt8) : Option Nat :=
  bytes.tails.findIdx? fun tail => mark.isPrefixOf tail

/-- A mark is found at once or from the next byte on. -/
theorem find?_cons (mark : List UInt8) (byte : UInt8) (rest : List UInt8) :
    find? mark (byte :: rest) =
      if mark <+: byte :: rest then some 0 else (find? mark rest).map (· + 1) := by
  rw [find?, List.tails_cons, List.findIdx?_cons]
  simp only [ List.isPrefixOf_iff_prefix]
  rfl

/-- A mark is not found among bytes that differ from its first one. -/
theorem find?_append (first : UInt8) (mark block rest : List UInt8)
    (foreign : ∀ byte ∈ block, byte ≠ first) :
    find? (first :: mark) (block ++ rest) = (find? (first :: mark) rest).map (block.length + ·) := by
  induction block with
  | nil => simp
  | cons byte block inductionHypothesis =>
    obtain ⟨apart, later⟩ := List.forall_mem_cons.mp foreign
    have absent : ¬ first :: mark <+: byte :: (block ++ rest) := by
      rw [List.cons_prefix_cons]
      exact fun both => apart both.1.symm
    rw [List.cons_append, find?_cons, if_neg absent, inductionHypothesis later, Option.map_map,
      List.length_cons]
    congr 1
    funext position
    simp only [Function.comp]
    omega

/-- An ASCII mark is found among the bytes of characters where it is found among the characters: at
once, or behind the first of them. -/
theorem find?_encode (first : Char) (mark : List Char)
    (ascii : ∀ c ∈ first :: mark, c.val.toNat ≤ 127) (c : Char) (rest : List Char) :
    find? ((first :: mark).flatMap String.utf8EncodeChar)
        ((c :: rest).flatMap String.utf8EncodeChar) =
      if first :: mark <+: c :: rest then some 0
      else (find? ((first :: mark).flatMap String.utf8EncodeChar)
        (rest.flatMap String.utf8EncodeChar)).map ((String.utf8EncodeChar c).length + ·) := by
  have asciiFirst := ascii first List.mem_cons_self
  by_cases asciiC : c.val.toNat ≤ 127
  · have both := encode_prefix_iff (first :: mark) (c :: rest) ascii
    rw [List.flatMap_cons (x := c), encode_ascii c asciiC, List.singleton_append] at both ⊢
    rw [find?_cons]
    simp only [both, List.length_singleton, Nat.add_comm 1]
  · have absent : ¬ first :: mark <+: c :: rest := by
      rw [List.cons_prefix_cons]
      exact fun both => asciiC (both.1 ▸ asciiFirst)
    have foreign : ∀ byte ∈ String.utf8EncodeChar c, byte ≠ UInt8.ofNat first.val.toNat := by
      rintro byte member rfl
      have above := encode_high c asciiC _ member
      rw [UInt8.toNat_ofNat'] at above
      omega
    rw [if_neg absent, List.flatMap_cons (x := c), List.flatMap_cons, encode_ascii first asciiFirst,
      List.singleton_append]
    exact find?_append _ _ _ _ foreign

/-- The text in front of a position and the text behind it, unless the position falls within a
character or beyond the end. -/
def splitAtByte? : Nat → List Char → Option (List Char × List Char)
  | 0, chars => some ([], chars)
  | _ + 1, [] => none
  | position + 1, c :: rest =>
      let width := (String.utf8EncodeChar c).length
      if width ≤ position + 1 then
        (splitAtByte? (position + 1 - width) rest).map fun (front, back) => (c :: front, back)
      else none

/-- Behind the bytes of a text is where it is split. -/
theorem splitAtByte?_append (front back : List Char) :
    splitAtByte? (front.flatMap String.utf8EncodeChar).length (front ++ back) =
      some (front, back) := by
  induction front with
  | nil => rw [List.flatMap_nil, List.length_nil, List.nil_append, splitAtByte?]
  | cons c front inductionHypothesis =>
    have wide : 0 < (String.utf8EncodeChar c).length :=
      List.length_pos_iff.mpr String.utf8EncodeChar_ne_nil
    rw [List.flatMap_cons, List.length_append, List.cons_append]
    obtain ⟨position, behind⟩ := Nat.exists_eq_add_one_of_ne_zero (Nat.ne_of_gt
      (Nat.add_pos_left wide (front.flatMap String.utf8EncodeChar).length))
    have fits : (String.utf8EncodeChar c).length ≤ position + 1 := by omega
    have left : position + 1 - (String.utf8EncodeChar c).length =
        (front.flatMap String.utf8EncodeChar).length := by omega
    rw [behind, splitAtByte?]
    simp only [fits, if_true, left, inductionHypothesis, Option.map_some]

/-- The first byte of an ASCII character stands behind the characters in front of it. -/
theorem idxOf_encode (mark : Char) (ascii : mark.val.toNat ≤ 127) (chars : List Char) :
    (chars.flatMap String.utf8EncodeChar).idxOf (UInt8.ofNat mark.val.toNat) =
      ((chars.takeWhile (· ≠ mark)).flatMap String.utf8EncodeChar).length := by
  induction chars with
  | nil => rfl
  | cons c rest inductionHypothesis =>
    rw [List.flatMap_cons]
    by_cases same : c = mark
    · subst same
      simp [encode_ascii c ascii]
    · have absent : UInt8.ofNat mark.val.toNat ∉ String.utf8EncodeChar c := by
        by_cases asciiC : c.val.toNat ≤ 127
        · rw [encode_ascii c asciiC, List.mem_singleton, ascii_byte_inj mark c ascii asciiC]
          exact fun other => same other.symm
        · intro member
          have above := encode_high c asciiC _ member
          rw [UInt8.toNat_ofNat'] at above
          omega
      rw [List.idxOf_append_of_notMem absent, inductionHypothesis,
        List.takeWhile_cons_of_pos (by simpa using same), List.flatMap_cons, List.length_append]

end Text

namespace Origin

/-! ## The cut -/

/-- The mark behind a scheme. -/
def mark : List Char := "://".toList

/-- The mark is ASCII. -/
theorem mark_ascii : ∀ c ∈ mark, c.val.toNat ≤ 127 := by simp [mark]

/-- Where no mark stands, a character belongs to the scheme. -/
theorem splitScheme?_cons (c : Char) (rest : List Char) (absent : ¬ mark <+: c :: rest) :
    splitScheme? (c :: rest) =
      (splitScheme? rest).map fun (scheme, after) => (c :: scheme, after) := by
  rw [splitScheme?]
  rintro after rfl rfl
  exact absent (List.prefix_append mark after)

/-- Either there is no mark, for characters and for bytes, or the scheme ends in the first one, and
its bytes do. -/
theorem splitScheme?_cases (chars : List Char) :
    (splitScheme? chars = none ∧ ¬ mark <:+: chars ∧
      Text.find? (mark.flatMap String.utf8EncodeChar) (chars.flatMap String.utf8EncodeChar) =
        none) ∨
    ∃ scheme after, splitScheme? chars = some (scheme ++ mark, after) ∧
      chars = scheme ++ mark ++ after ∧
      Text.find? (mark.flatMap String.utf8EncodeChar) (chars.flatMap String.utf8EncodeChar) =
        some (scheme.flatMap String.utf8EncodeChar).length := by
  induction chars with
  | nil => exact .inl ⟨rfl, by decide, by decide⟩
  | cons c rest inductionHypothesis =>
    have bytes : Text.find? (mark.flatMap String.utf8EncodeChar)
        ((c :: rest).flatMap String.utf8EncodeChar) =
        if mark <+: c :: rest then some 0
        else (Text.find? (mark.flatMap String.utf8EncodeChar)
          (rest.flatMap String.utf8EncodeChar)).map ((String.utf8EncodeChar c).length + ·) :=
      Text.find?_encode ':' ['/', '/'] mark_ascii c rest
    by_cases found : mark <+: c :: rest
    · obtain ⟨after, whole⟩ := found
      refine .inr ⟨[], after, ?_, whole.symm, ?_⟩
      · rw [← whole]
        rfl
      · rw [bytes, if_pos ⟨after, whole⟩]
        rfl
    · rw [splitScheme?_cons c rest found, bytes, if_neg found]
      rcases inductionHypothesis with
        ⟨unsplit, absent, unfound⟩ | ⟨scheme, after, split, whole, position⟩
      · refine .inl ⟨by rw [unsplit]; rfl, ?_, by rw [unfound]; rfl⟩
        rw [List.infix_cons_iff]
        exact not_or.mpr ⟨found, absent⟩
      · refine .inr ⟨c :: scheme, after, by rw [split]; rfl, by rw [whole]; rfl, ?_⟩
        rw [position, Option.map_some, List.flatMap_cons, List.length_append]

/-- Either an endpoint has no mark and is hidden, or it is shown up to the first slash behind the
mark. -/
theorem redact_cases (endpoint : String) :
    (redact endpoint = hidden ∧ ¬ mark <:+: endpoint.toList ∧
      Text.find? (mark.flatMap String.utf8EncodeChar) (Text.utf8 endpoint) = none) ∨
    ∃ scheme after, endpoint.toList = scheme ++ mark ++ after ∧
      redact endpoint = String.ofList (scheme ++ mark ++ after.takeWhile (· ≠ '/')) ∧
      Text.find? (mark.flatMap String.utf8EncodeChar) (Text.utf8 endpoint) =
        some (scheme.flatMap String.utf8EncodeChar).length := by
  rw [Text.utf8_eq]
  rcases splitScheme?_cases endpoint.toList with
    ⟨unsplit, absent, unfound⟩ | ⟨scheme, after, split, whole, position⟩
  · exact .inl ⟨by simp only [redact, unsplit], absent, unfound⟩
  · exact .inr ⟨scheme, after, whole, by simp only [redact, split], position⟩

/-- An endpoint is hidden exactly if it has no mark. -/
theorem redact_eq_hidden_iff (endpoint : String) :
    redact endpoint = hidden ↔ ¬ mark <:+: endpoint.toList := by
  rcases redact_cases endpoint with ⟨isHidden, absent, _⟩ | ⟨scheme, after, whole, shown, _⟩
  · exact iff_of_true isHidden absent
  · refine iff_of_false ?_ (not_not_intro ⟨scheme, after, whole.symm⟩)
    intro isHidden
    have marked : mark <:+: hidden.toList := by
      rw [← isHidden, shown, String.toList_ofList]
      exact ⟨scheme, after.takeWhile (· ≠ '/'), rfl⟩
    exact absurd marked (by decide)

/-- The endpoint as logs may show it, by a search of its bytes: the mark is searched for, then a slash
in the text behind it, and the text is cut at the positions that were found. There is no text if a
cut falls within a character. -/
def redactAtBytes? (endpoint : String) : Option String :=
  match Text.find? (mark.flatMap String.utf8EncodeChar) (Text.utf8 endpoint) with
  | none => some hidden
  | some position => do
      let behind := position + mark.length
      let (_, after) ← Text.splitAtByte? behind endpoint.toList
      let host := (after.flatMap String.utf8EncodeChar).idxOf (UInt8.ofNat '/'.val.toNat)
      let (shown, _) ← Text.splitAtByte? (behind + host) endpoint.toList
      return String.ofList shown

/-- The search of the bytes never cuts within a character, and shows what logs show. -/
theorem redactAtBytes?_eq (endpoint : String) : redactAtBytes? endpoint = some (redact endpoint) := by
  unfold redactAtBytes?
  rcases redact_cases endpoint with ⟨isHidden, _, unfound⟩ | ⟨scheme, after, whole, shown, found⟩
  · simp only [unfound, isHidden]
  · have behind : (scheme.flatMap String.utf8EncodeChar).length + mark.length =
        ((scheme ++ mark).flatMap String.utf8EncodeChar).length := by
      rw [List.flatMap_append, List.length_append]
      rfl
    have host : ((scheme ++ mark).flatMap String.utf8EncodeChar).length +
        ((after.takeWhile (· ≠ '/')).flatMap String.utf8EncodeChar).length =
        ((scheme ++ mark ++ after.takeWhile (· ≠ '/')).flatMap String.utf8EncodeChar).length := by
      rw [← List.length_append, ← List.flatMap_append]
    have cut : endpoint.toList =
        scheme ++ mark ++ after.takeWhile (· ≠ '/') ++ after.dropWhile (· ≠ '/') := by
      rw [List.append_assoc, List.takeWhile_append_dropWhile, whole]
    simp only [found, behind]
    rw [whole, Text.splitAtByte?_append, ← whole]
    simp only [Option.bind_eq_bind, Option.bind_some]
    rw [Text.idxOf_encode '/' (by decide), host, cut, Text.splitAtByte?_append, Option.bind_some,
      shown]
    rfl

/-! ## Endpoints with a scheme -/

/-- An endpoint that is taken apart: a scheme, an authority, and the rest, which starts with a path, a
query or a fragment. -/
structure Locator where
  scheme : String
  authority : String
  rest : String
  plainScheme : ∀ c ∈ scheme.toList, c ≠ ':' ∧ c ≠ '/'
  plainAuthority : ∀ c ∈ authority.toList, c ≠ '/' ∧ c ≠ '?' ∧ c ≠ '#'
  delimited : ∀ c ∈ rest.toList.head?, c = '/' ∨ c = '?' ∨ c = '#'

namespace Locator

/-- The scheme and the authority. -/
def origin (u : Locator) : String := u.scheme ++ "://" ++ u.authority

/-- The whole endpoint. -/
def text (u : Locator) : String := u.origin ++ u.rest

/-- What stands in front of the first slash of the rest. -/
def exposed (u : Locator) : String := String.ofList (u.rest.toList.takeWhile (· ≠ '/'))

/-- Nothing is exposed exactly if the rest is empty or starts with a path. -/
theorem exposed_eq_empty_iff (u : Locator) :
    u.exposed = "" ↔ u.rest = "" ∨ u.rest.toList.head? = some '/' := by
  rw [exposed, String.ofList_eq_empty_iff]
  cases listed : u.rest.toList with
  | nil => simp [String.toList_eq_nil_iff.mp listed]
  | cons c rest =>
    have filled : u.rest ≠ "" := fun empty => by simp [empty] at listed
    by_cases slash : c = '/' <;> simp [filled, slash]

/-- What is exposed starts, like the rest, with something that no authority contains. -/
theorem exposed_delimited (u : Locator) :
    ∀ c ∈ u.exposed.toList.head?, c = '/' ∨ c = '?' ∨ c = '#' := by
  intro c first
  refine u.delimited c ?_
  rw [exposed, String.toList_ofList] at first
  cases listed : u.rest.toList with
  | nil => simp [listed] at first
  | cons d rest =>
    rw [listed, List.takeWhile_cons] at first
    split at first
    · exact first
    · exact nomatch first

end Locator

/-- A scheme without a colon ends in the first mark. -/
theorem splitScheme?_plain (scheme after : List Char) (plain : ∀ c ∈ scheme, c ≠ ':') :
    splitScheme? (scheme ++ mark ++ after) = some (scheme ++ mark, after) := by
  induction scheme with
  | nil => rfl
  | cons c scheme inductionHypothesis =>
    obtain ⟨first, others⟩ := List.forall_mem_cons.mp plain
    have absent : ¬ mark <+: c :: (scheme ++ mark ++ after) := by
      intro found
      exact first (List.cons_prefix_cons.mp found).1.symm
    rw [List.cons_append, List.cons_append, splitScheme?_cons c _ absent,
      inductionHypothesis others]
    rfl

/-- The characters that an authority can contain. -/
def isPlain (c : Char) : Bool := c ≠ '/' && c ≠ '?' && c ≠ '#'

namespace Locator

variable (u : Locator)

/-- The scheme of what is shown, and what is shown behind it. -/
theorem splitScheme?_shown (after : List Char) :
    splitScheme? (u.scheme.toList ++ mark ++ after) = some (u.scheme.toList ++ mark, after) :=
  splitScheme?_plain _ _ fun c member => (u.plainScheme c member).1

/-- Of an endpoint with a scheme logs show the origin and what is exposed. -/
theorem redact_text : redact u.text = u.origin ++ u.exposed := by
  have apart : u.text.toList =
      u.scheme.toList ++ mark ++ (u.authority.toList ++ u.rest.toList) := by
    simp [text, origin, mark]
  have unstopped : ∀ c ∈ u.authority.toList, decide (c ≠ '/') = true := by
    intro c member
    exact decide_eq_true (u.plainAuthority c member).1
  rw [redact, apart, u.splitScheme?_shown, ← String.toList_inj]
  simp only [List.takeWhile_append_of_pos unstopped, String.toList_ofList]
  simp [origin, exposed, mark]

/-- The authority ends where what is exposed begins. -/
theorem takeWhile_isPlain :
    (u.authority.toList ++ u.exposed.toList).takeWhile isPlain = u.authority.toList := by
  have inside : ∀ c ∈ u.authority.toList, isPlain c = true := by
    intro c member
    simpa [isPlain, and_assoc] using u.plainAuthority c member
  rw [List.takeWhile_append_of_pos inside]
  have outside : u.exposed.toList.takeWhile isPlain = [] := by
    cases listed : u.exposed.toList with
    | nil => rfl
    | cons c rest =>
      have delimiter := u.exposed_delimited c (by simp [listed])
      refine List.takeWhile_cons_of_neg ?_
      rcases delimiter with rfl | rfl | rfl <;> decide
  rw [outside, List.append_nil]

/-- What logs show of an endpoint with a scheme tells its origin and what is exposed, and no more. -/
theorem redact_eq_iff (v : Locator) :
    redact u.text = redact v.text ↔ u.origin = v.origin ∧ u.exposed = v.exposed := by
  rw [redact_text, redact_text]
  constructor
  · intro same
    have shown (w : Locator) : (w.origin ++ w.exposed).toList =
        w.scheme.toList ++ mark ++ (w.authority.toList ++ w.exposed.toList) := by
      simp [origin, mark]
    have characters := congrArg String.toList same
    rw [shown u, shown v] at characters
    have split := congrArg splitScheme? characters
    rw [u.splitScheme?_shown, v.splitScheme?_shown, Option.some.injEq, Prod.mk.injEq] at split
    obtain ⟨schemes, behind⟩ := split
    have authorities := congrArg (List.takeWhile isPlain) behind
    rw [u.takeWhile_isPlain, v.takeWhile_isPlain] at authorities
    rw [authorities] at behind
    have sameScheme : u.scheme = v.scheme :=
      String.toList_inj.mp (List.append_cancel_right schemes)
    have sameAuthority : u.authority = v.authority := String.toList_inj.mp authorities
    refine ⟨?_, String.toList_inj.mp (List.append_cancel_left behind)⟩
    rw [origin, origin, sameScheme, sameAuthority]
  · rintro ⟨origins, exposures⟩
    rw [origins, exposures]

end Locator

/-- Logs show an endpoint with a scheme up to the first slash behind its authority. So they show its
origin alone exactly if the rest is empty or starts with a path; a query or a fragment that starts the
rest is shown up to its first slash, and endpoints that differ there are told apart. An endpoint
without the mark is hidden. A search by bytes comes to the same on every text and never cuts within a
character. -/
theorem redact_shows (u v : Locator) (endpoint : String) :
    redact u.text = u.origin ++ u.exposed ∧
    (redact u.text = u.origin ↔ u.rest = "" ∨ u.rest.toList.head? = some '/') ∧
    (redact u.text = redact v.text ↔ u.origin = v.origin ∧ u.exposed = v.exposed) ∧
    (redact endpoint = hidden ↔ ¬ mark <:+: endpoint.toList) ∧
    redactAtBytes? endpoint = some (redact endpoint) := by
  refine ⟨u.redact_text, ?_, u.redact_eq_iff v, redact_eq_hidden_iff endpoint,
    redactAtBytes?_eq endpoint⟩
  rw [u.redact_text, ← u.exposed_eq_empty_iff, String.append_eq_left_iff]

/-! A push service takes its token in the query, and there is no slash in front of it. -/

namespace Token

/-- The endpoint of one client. -/
def first : Locator where
  scheme := "https"
  authority := "push.example"
  rest := "?token=a"
  plainScheme := by simp
  plainAuthority := by simp
  delimited := by simp

/-- The endpoint of another client. -/
def second : Locator := { first with rest := "?token=b", delimited := by simp }

/-- The two endpoints differ in their queries only. Logs show both as they are, and so the record of a
removal gives the token away. -/
theorem token_shown :
    first.origin = second.origin ∧
    redact first.text = "https://push.example?token=a" ∧
    redact second.text = "https://push.example?token=b" ∧
    ¬ (∀ u : Locator, redact u.text = u.origin) ∧
    ¬ (∀ u v : Locator, u.origin = v.origin → redact u.text = redact v.text) ∧
    ∃ t : Table, (Database.empty.withTable t |>.removeEndpoint first.text).events =
      [.removedByEndpoint "https://push.example?token=a" 0] := by
  have shownFirst : redact first.text = "https://push.example?token=a" := by decide +kernel
  have shownSecond : redact second.text = "https://push.example?token=b" := by decide +kernel
  refine ⟨rfl, shownFirst, shownSecond, ?_, ?_, .empty .epoch true, by decide +kernel⟩
  · intro hides
    have originOnly := hides first
    rw [shownFirst] at originOnly
    exact absurd originOnly (by decide +kernel)
  · intro alike
    have same := alike first second rfl
    rw [shownFirst, shownSecond] at same
    exact absurd same (by decide +kernel)

end Token

end Origin
end PushLedger
