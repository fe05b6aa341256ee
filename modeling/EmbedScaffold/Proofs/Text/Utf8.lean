import EmbedScaffold.Text.Lines
import EmbedScaffold.Text.Utf8
import Mathlib.Data.List.Basic

/-!
# Texts and their bytes

Reading is strict: bytes that are read as a text are its encoding, and the encoding of a text is
read as the text.  Only carriage returns are lost when a document is read and written back, since
reading turns them into line feeds.
-/

namespace EmbedScaffold.Text

/-! ## Characters -/

theorem eq_toUInt8 {byte : UInt8} {code : Nat} (same : byte.toNat = code) :
    byte = code.toUInt8 := by
  rw [← same]
  exact (UInt8.ofNat_toNat).symm

theorem toNat_ofNat_of_valid {code : Nat} (valid : code.isValidChar) :
    (Char.ofNat code).toNat = code := by
  rw [Char.ofNat, dif_pos valid]
  rfl

/-- What the bounds of a sequence say: its second byte is a continuation byte, and the bits of both
bytes begin a character that needs this many bytes. -/
inductive LeadBounds (first second : Nat) (lead : Utf8Lead) : Prop
  | two (further : lead.further = 0) (bits : first = 0xC0 + lead.bits)
      (bounds : 2 ≤ lead.bits ∧ lead.bits < 0x20)
  | three (further : lead.further = 1) (bits : first = 0xE0 + lead.bits)
      (bounds : lead.bits < 0x10 ∧ 0x20 ≤ lead.bits * 64 + (second - 0x80) ∧
        (lead.bits * 64 + (second - 0x80) < 0x360 ∨ 0x380 ≤ lead.bits * 64 + (second - 0x80)))
  | four (further : lead.further = 2) (bits : first = 0xF0 + lead.bits)
      (bounds : lead.bits < 5 ∧ 0x10 ≤ lead.bits * 64 + (second - 0x80) ∧
        lead.bits * 64 + (second - 0x80) < 0x110)

theorem leadBounds {first second : UInt8} {lead : Utf8Lead} (leads : utf8Lead? first = some lead)
    (low : lead.low ≤ second) (high : second ≤ lead.high) :
    (0x80 ≤ second.toNat ∧ second.toNat ≤ 0xBF) ∧ LeadBounds first.toNat second.toNat lead := by
  unfold utf8Lead? at leads
  simp only [beq_iff_eq, Bool.and_eq_true, decide_eq_true_eq, UInt8.le_iff_toNat_le] at leads
  rw [UInt8.le_iff_toNat_le] at low high
  split_ifs at leads with isTwo isE0 isED isThree isF0 isFour isF4 <;>
    obtain rfl := Option.some.inj leads <;>
    simp only [UInt8.reduceToNat] at *
  · exact ⟨⟨low, high⟩, .two rfl (by dsimp only; omega) (by dsimp only; omega)⟩
  · subst isE0
    exact ⟨⟨by omega, high⟩, .three rfl rfl (by dsimp only; omega)⟩
  · subst isED
    exact ⟨⟨low, by omega⟩, .three rfl rfl (by dsimp only; omega)⟩
  · have notED : first.toNat ≠ 0xED := fun same => isED (UInt8.toNat_inj.mp same)
    have notE0 : first.toNat ≠ 0xE0 := fun same => isE0 (UInt8.toNat_inj.mp same)
    exact ⟨⟨low, high⟩, .three rfl (by dsimp only; omega) (by dsimp only; omega)⟩
  · subst isF0
    exact ⟨⟨by omega, high⟩, .four rfl rfl (by dsimp only; omega)⟩
  · exact ⟨⟨low, high⟩, .four rfl (by dsimp only; omega) (by dsimp only; omega)⟩
  · subst isF4
    exact ⟨⟨low, by omega⟩, .four rfl rfl (by dsimp only; omega)⟩

/-- The continuation bytes that a character takes, and the bits that they add. -/
theorem exists_tail {size further bits : Nat} {bytes : List UInt8} {short : bytes.length < size}
    {read : Char} {rest : { bytes : List UInt8 // bytes.length < size }}
    (reads : utf8Tail size further bits bytes short = .char read rest) :
    ∃ tail, bytes = tail ++ rest.val ∧ tail.length = further ∧
      (∀ byte ∈ tail, 0x80 ≤ byte.toNat ∧ byte.toNat ≤ 0xBF) ∧
      read = Char.ofNat (tail.foldl (fun code byte => code * 64 + (byte.toNat - 0x80)) bits) := by
  fun_induction utf8Tail size further bits bytes short with
  | case1 bits bytes short =>
      cases reads
      exact ⟨[], rfl, rfl, by simp, rfl⟩
  | case2 => cases reads
  | case3 bits more next others short inBounds inductionHypothesis =>
      obtain ⟨tail, rfl, length, bounds, same⟩ := inductionHypothesis reads
      refine ⟨next :: tail, rfl, congrArg (· + 1) length, ?_, by rw [List.foldl_cons, same]⟩
      simp only [Bool.and_eq_true, decide_eq_true_eq, UInt8.le_iff_toNat_le] at inBounds
      intro byte member
      rcases List.mem_cons.mp member with rfl | later
      · exact inBounds
      · exact bounds byte later
  | case4 => cases reads

/-- The encoding with its shifts written out. -/
theorem encodeChar_eq (encoded : Char) :
    encodeChar encoded =
      if encoded.toNat < 0x80 then [encoded.toNat.toUInt8]
      else if encoded.toNat < 0x800 then
        [(encoded.toNat / 64 + 0xC0).toUInt8, (encoded.toNat % 64 + 128).toUInt8]
      else if encoded.toNat < 0x10000 then
        [(encoded.toNat / 4096 + 0xE0).toUInt8, (encoded.toNat / 64 % 64 + 128).toUInt8,
          (encoded.toNat % 64 + 128).toUInt8]
      else
        [(encoded.toNat / 262144 + 0xF0).toUInt8, (encoded.toNat / 4096 % 64 + 128).toUInt8,
          (encoded.toNat / 64 % 64 + 128).toUInt8, (encoded.toNat % 64 + 128).toUInt8] := by
  have noBits : Nat.pow 2 0 = 1 := rfl
  have sixBits : Nat.pow 2 6 = 64 := rfl
  have twelveBits : Nat.pow 2 12 = 4096 := rfl
  dsimp only [encodeChar]
  rw [noBits, sixBits, twelveBits, Nat.div_one]

/-- The bits of a longer sequence make up a character with this sequence as its encoding. -/
theorem encodeChar_of_leadBounds {first second : UInt8} {lead : Utf8Lead} {tail : List UInt8}
    (secondBounds : 0x80 ≤ second.toNat ∧ second.toNat ≤ 0xBF)
    (bounds : LeadBounds first.toNat second.toNat lead) (length : tail.length = lead.further)
    (tailBounds : ∀ byte ∈ tail, 0x80 ≤ byte.toNat ∧ byte.toNat ≤ 0xBF) :
    encodeChar (Char.ofNat (tail.foldl (fun code byte => code * 64 + (byte.toNat - 0x80))
      (lead.bits * 64 + (second.toNat - 0x80)))) = first :: second :: tail := by
  cases bounds with
  | two further bits bounds =>
      rw [further, List.length_eq_zero_iff] at length
      subst length
      have valid : (lead.bits * 64 + (second.toNat - 0x80)).isValidChar := Or.inl (by omega)
      rw [List.foldl_nil, encodeChar_eq, toNat_ofNat_of_valid valid, if_neg (by omega),
        if_pos (by omega), ← @eq_toUInt8 first _ (by omega), ← @eq_toUInt8 second _ (by omega)]
  | three further bits bounds =>
      rw [further, List.length_eq_one_iff] at length
      obtain ⟨third, rfl⟩ := length
      have thirdBounds := tailBounds third (List.mem_singleton_self third)
      have valid : ((lead.bits * 64 + (second.toNat - 0x80)) * 64 +
          (third.toNat - 0x80)).isValidChar := by
        unfold Nat.isValidChar
        omega
      rw [List.foldl_cons, List.foldl_nil, encodeChar_eq, toNat_ofNat_of_valid valid,
        if_neg (by omega), if_neg (by omega), if_pos (by omega),
        ← @eq_toUInt8 first _ (by omega), ← @eq_toUInt8 second _ (by omega),
        ← @eq_toUInt8 third _ (by omega)]
  | four further bits bounds =>
      rw [further, List.length_eq_two] at length
      obtain ⟨third, fourth, rfl⟩ := length
      have thirdBounds := tailBounds third (by simp)
      have fourthBounds := tailBounds fourth (by simp)
      have valid : (((lead.bits * 64 + (second.toNat - 0x80)) * 64 +
          (third.toNat - 0x80)) * 64 + (fourth.toNat - 0x80)).isValidChar := by
        unfold Nat.isValidChar
        omega
      rw [List.foldl_cons, List.foldl_cons, List.foldl_nil, encodeChar_eq,
        toNat_ofNat_of_valid valid, if_neg (by omega), if_neg (by omega),
        if_neg (by omega), ← @eq_toUInt8 first _ (by omega),
        ← @eq_toUInt8 second _ (by omega), ← @eq_toUInt8 third _ (by omega),
        ← @eq_toUInt8 fourth _ (by omega)]

/-- The bytes that a character is read from are its encoding. -/
theorem encodeChar_of_utf8Step {first : UInt8} {bytes : List UInt8} {read : Char}
    {rest : { others : List UInt8 // others.length < bytes.length + 1 }}
    (reads : utf8Step first bytes = .char read rest) :
    encodeChar read ++ rest.val = first :: bytes := by
  unfold utf8Step at reads
  split_ifs at reads with isAscii
  · cases reads
    rw [UInt8.lt_iff_toNat_lt] at isAscii
    change first.toNat < 0x80 at isAscii
    rw [encodeChar_eq, toNat_ofNat_of_valid (Or.inl (by omega)), if_pos isAscii, ← eq_toUInt8 rfl]
    rfl
  · split at reads
    · cases reads
    · next lead leads =>
        split at reads
        · cases reads
        · next second others =>
            split_ifs at reads with inBounds
            rw [Bool.and_eq_true, decide_eq_true_eq, decide_eq_true_eq] at inBounds
            obtain ⟨secondBounds, bounds⟩ := leadBounds leads inBounds.1 inBounds.2
            obtain ⟨tail, cut, length, tailBounds, rfl⟩ := exists_tail reads
            have joined : (first :: second :: tail) ++ rest.val = first :: second :: others := by
              rw [List.cons_append, List.cons_append, ← cut]
            rw [encodeChar_of_leadBounds secondBounds bounds length tailBounds]
            exact joined

/-! ## Characters from their encoding -/

theorem toNat_toUInt8 {code : Nat} (small : code < 256) : code.toUInt8.toNat = code :=
  Nat.mod_eq_of_lt small

theorem bounds_continuation (code : Nat) : 0x80 ≤ (code % 64 + 128).toUInt8.toNat ∧
    (code % 64 + 128).toUInt8.toNat ≤ 0xBF := by
  rw [toNat_toUInt8 (by omega)]
  omega

theorem bits_continuation (code : Nat) :
    (code % 64 + 128).toUInt8.toNat - 0x80 = code % 64 := by
  rw [toNat_toUInt8 (by omega), Nat.add_sub_cancel]

/-- Continuation bytes are read up to the number that is asked for. -/
theorem utf8Tail_append {size bits : Nat} {tail rest : List UInt8}
    (short : (tail ++ rest).length < size)
    (bounds : ∀ byte ∈ tail, 0x80 ≤ byte.toNat ∧ byte.toNat ≤ 0xBF) :
    ∃ shorter : rest.length < size, utf8Tail size tail.length bits (tail ++ rest) short =
      .char (Char.ofNat (tail.foldl (fun code byte => code * 64 + (byte.toNat - 0x80)) bits))
        ⟨rest, shorter⟩ := by
  induction tail generalizing bits with
  | nil => exact ⟨short, rfl⟩
  | cons next others inductionHypothesis =>
      have inBounds := bounds next List.mem_cons_self
      obtain ⟨shorter, reads⟩ := @inductionHypothesis (bits * 64 + (next.toNat - 0x80))
        (Nat.lt_of_succ_lt (by simpa using short))
        fun byte member => bounds byte (List.mem_cons_of_mem _ member)
      refine ⟨shorter, ?_⟩
      have within : (0x80 ≤ next && next ≤ 0xBF) = true := by
        simpa [UInt8.le_iff_toNat_le] using inBounds
      simp only [List.length_cons, List.cons_append, utf8Tail, within, if_true, List.foldl_cons]
      exact reads

/-- A byte that begins a longer sequence, with a second byte in its bounds, is read with the
continuation bytes behind it. -/
theorem utf8Step_of_lead {first second : UInt8} {lead : Utf8Lead} {tail rest : List UInt8}
    (notAscii : 0x80 ≤ first.toNat) (leads : utf8Lead? first = some lead)
    (low : lead.low ≤ second) (high : second ≤ lead.high) (length : tail.length = lead.further)
    (bounds : ∀ byte ∈ tail, 0x80 ≤ byte.toNat ∧ byte.toNat ≤ 0xBF) :
    ∃ shorter, utf8Step first (second :: (tail ++ rest)) =
      .char (Char.ofNat (tail.foldl (fun code byte => code * 64 + (byte.toNat - 0x80))
        (lead.bits * 64 + (second.toNat - 0x80)))) ⟨rest, shorter⟩ := by
  have long : ¬ first < 0x80 := by
    rw [UInt8.lt_iff_toNat_lt]
    change ¬ first.toNat < 0x80
    omega
  obtain ⟨shorter, reads⟩ := @utf8Tail_append ((tail ++ rest).length + 2)
    (lead.bits * 64 + (second.toNat - 0x80)) tail rest (by omega) bounds
  refine ⟨shorter, ?_⟩
  rw [utf8Step, if_neg long, leads]
  dsimp only
  rw [if_pos (by simp [low, high])]
  rw [← length]
  exact reads

/-- The first byte of a character's encoding tells how it goes on. -/
theorem exists_lead {first second code : Nat} (firstSmall : first < 256)
    (secondSmall : second < 256)
    (shape : (0x80 ≤ code ∧ code < 0x800 ∧ first = code / 64 + 0xC0 ∧ second = code % 64 + 128) ∨
      (0x800 ≤ code ∧ code < 0x10000 ∧ code.isValidChar ∧ first = code / 4096 + 0xE0 ∧
        second = code / 64 % 64 + 128) ∨
      (0x10000 ≤ code ∧ code.isValidChar ∧ first = code / 262144 + 0xF0 ∧
        second = code / 4096 % 64 + 128)) :
    ∃ lead, utf8Lead? first.toUInt8 = some lead ∧ lead.low ≤ second.toUInt8 ∧
      second.toUInt8 ≤ lead.high ∧
      (code < 0x800 → lead.further = 0 ∧ lead.bits = code / 64) ∧
      (0x800 ≤ code → code < 0x10000 → lead.further = 1 ∧ lead.bits = code / 4096) ∧
      (0x10000 ≤ code → lead.further = 2 ∧ lead.bits = code / 262144) := by
  have firstNat := toNat_toUInt8 firstSmall
  have secondNat := toNat_toUInt8 secondSmall
  unfold Nat.isValidChar at shape
  unfold utf8Lead?
  simp only [beq_iff_eq, Bool.and_eq_true, decide_eq_true_eq, UInt8.le_iff_toNat_le,
    ← UInt8.toNat_inj, firstNat, secondNat, UInt8.reduceToNat]
  -- The classes of first bytes cover all codes of characters, so that the last case is void.
  split_ifs
  all_goals
    first
    | refine ⟨_, rfl, ?_, ?_, fun _ => ?_, fun _ _ => ?_, fun _ => ?_⟩ <;>
        dsimp only [UInt8.reduceToNat] <;> omega
    | omega

/-- The encoding of a character is read as the character. -/
theorem utf8Step_encodeChar (read : Char) (rest : List UInt8) :
    ∃ first more shorter, encodeChar read = first :: more ∧
      utf8Step first (more ++ rest) = .char read ⟨rest, shorter⟩ := by
  have valid : read.toNat.isValidChar := read.valid
  have small : read.toNat < 0x110000 := by
    rcases valid with low | high <;> omega
  rw [encodeChar_eq]
  split_ifs with one two three
  · refine ⟨read.toNat.toUInt8, [], Nat.lt_succ_self _, rfl, ?_⟩
    have ascii : read.toNat.toUInt8 < 0x80 := by
      rw [UInt8.lt_iff_toNat_lt, toNat_toUInt8 (by omega)]
      exact one
    change utf8Step read.toNat.toUInt8 rest = .char read ⟨rest, Nat.lt_succ_self _⟩
    rw [utf8Step, if_pos ascii, toNat_toUInt8 (by omega), Char.ofNat_toNat]
  · obtain ⟨lead, leads, low, high, shape, -, -⟩ :=
      @exists_lead (read.toNat / 64 + 0xC0) (read.toNat % 64 + 128) read.toNat (by omega)
        (by omega) (.inl (by omega))
    obtain ⟨further, bits⟩ := shape (by omega)
    obtain ⟨shorter, reads⟩ := @utf8Step_of_lead _ _ lead [] rest
      (by rw [toNat_toUInt8 (by omega)]; omega) leads low high further.symm nofun
    refine ⟨_, _, shorter, rfl, reads.trans ?_⟩
    have code : lead.bits * 64 + ((read.toNat % 64 + 128).toUInt8.toNat - 0x80) = read.toNat := by
      rw [bits, bits_continuation]
      omega
    rw [List.foldl_nil, code, Char.ofNat_toNat]
  · obtain ⟨lead, leads, low, high, -, shape, -⟩ :=
      @exists_lead (read.toNat / 4096 + 0xE0) (read.toNat / 64 % 64 + 128) read.toNat (by omega)
        (by omega) (.inr (.inl ⟨by omega, by omega, valid, rfl, rfl⟩))
    obtain ⟨further, bits⟩ := shape (by omega) (by omega)
    obtain ⟨shorter, reads⟩ := @utf8Step_of_lead _ _ lead [(read.toNat % 64 + 128).toUInt8] rest
      (by rw [toNat_toUInt8 (by omega)]; omega) leads low high further.symm (by
        intro byte member
        obtain rfl := List.mem_singleton.mp member
        exact bounds_continuation _)
    refine ⟨_, _, shorter, rfl, reads.trans ?_⟩
    have code : (lead.bits * 64 + ((read.toNat / 64 % 64 + 128).toUInt8.toNat - 0x80)) * 64 +
        ((read.toNat % 64 + 128).toUInt8.toNat - 0x80) = read.toNat := by
      rw [bits, bits_continuation, bits_continuation]
      omega
    rw [List.foldl_cons, List.foldl_nil, code, Char.ofNat_toNat]
  · obtain ⟨lead, leads, low, high, -, -, shape⟩ :=
      @exists_lead (read.toNat / 262144 + 0xF0) (read.toNat / 4096 % 64 + 128) read.toNat
        (by omega) (by omega) (.inr (.inr ⟨by omega, valid, rfl, rfl⟩))
    obtain ⟨further, bits⟩ := shape (by omega)
    obtain ⟨shorter, reads⟩ := @utf8Step_of_lead _ _ lead
      [(read.toNat / 64 % 64 + 128).toUInt8, (read.toNat % 64 + 128).toUInt8] rest
      (by rw [toNat_toUInt8 (by omega)]; omega) leads low high further.symm (by
        intro byte member
        rcases List.mem_pair.mp member with rfl | rfl
        · exact bounds_continuation _
        · exact bounds_continuation _)
    refine ⟨_, _, shorter, rfl, reads.trans ?_⟩
    have code : ((lead.bits * 64 + ((read.toNat / 4096 % 64 + 128).toUInt8.toNat - 0x80)) * 64 +
        ((read.toNat / 64 % 64 + 128).toUInt8.toNat - 0x80)) * 64 +
        ((read.toNat % 64 + 128).toUInt8.toNat - 0x80) = read.toNat := by
      rw [bits, bits_continuation, bits_continuation, bits_continuation]
      omega
    rw [List.foldl_cons, List.foldl_cons, List.foldl_nil, code, Char.ofNat_toNat]

/-! ## Texts -/

/-- Bytes that are read as a text are its encoding. -/
theorem encode_of_decode {offset : Nat} {bytes : List UInt8} {content : Text}
    (reads : decode offset bytes = .ok content) : encode content = bytes := by
  fun_induction decode offset bytes generalizing content with
  | case1 =>
      cases reads
      rfl
  | case2 offset first rest read others short step inductionHypothesis =>
      cases behind : decode (offset + (rest.length + 1 - others.length)) others with
      | error => rw [behind] at reads; cases reads
      | ok later =>
          rw [behind] at reads
          obtain rfl := Except.ok.inj reads
          rw [encode, List.flatMap_cons, ← encode, inductionHypothesis behind]
          exact encodeChar_of_utf8Step step
  | case3 => cases reads

/-- The encoding of a text is read as the text. -/
theorem decode_encode (offset : Nat) (content : Text) :
    decode offset (encode content) = .ok content := by
  induction content generalizing offset with
  | nil =>
      rw [encode, List.flatMap_nil, decode]
  | cons read rest inductionHypothesis =>
      obtain ⟨first, more, shorter, shape, step⟩ := utf8Step_encodeChar read (encode rest)
      rw [encode, List.flatMap_cons, ← encode, shape, List.cons_append, decode, step]
      dsimp only
      rw [inductionHypothesis]
      rfl

/-! ## Line ends -/

theorem normalizeNewlines_of_notMem {content : Text} (absent : '\r' ∉ content) :
    normalizeNewlines content = content := by
  fun_induction normalizeNewlines content with
  | case1 => rfl
  | case2 rest => exact absurd List.mem_cons_self absent
  | case3 first rest other inductionHypothesis =>
      rw [List.mem_cons, not_or] at absent
      rw [if_neg (Ne.symm absent.1), inductionHypothesis absent.2]

theorem mem_encode_of_return {content : Text} (present : '\r' ∈ content) :
    0x0D ∈ encode content :=
  List.mem_flatMap.mpr ⟨'\r', present, by decide⟩

/-- Bytes without a carriage return are given back by writing the text that is read from them. -/
theorem encode_normalizeNewlines {offset : Nat} {bytes : List UInt8} {content : Text}
    (reads : decode offset bytes = .ok content) (absent : 0x0D ∉ bytes) :
    encode (normalizeNewlines content) = bytes := by
  have bytesOf := encode_of_decode reads
  rw [normalizeNewlines_of_notMem, bytesOf]
  intro present
  exact absent (bytesOf ▸ mem_encode_of_return present)

theorem return_notMem_normalizeNewlines (content : Text) : '\r' ∉ normalizeNewlines content := by
  fun_induction normalizeNewlines content with
  | case1 => exact List.not_mem_nil
  | case2 rest inductionHypothesis =>
      rw [List.mem_cons, not_or]
      exact ⟨by decide, inductionHypothesis⟩
  | case3 first rest other inductionHypothesis =>
      rw [List.mem_cons, not_or]
      refine ⟨?_, inductionHypothesis⟩
      split_ifs with isReturn
      · decide
      · exact Ne.symm isReturn

/-- The bytes of a text survive reading and writing exactly if it has no carriage return. -/
theorem encode_normalizeNewlines_eq_iff (content : Text) :
    encode (normalizeNewlines content) = encode content ↔ '\r' ∉ content := by
  constructor
  · intro same
    have texts := (decode_encode 0 (normalizeNewlines content)).symm.trans
      (same ▸ decode_encode 0 content)
    rw [← Except.ok.inj texts]
    exact return_notMem_normalizeNewlines content
  · intro absent
    rw [normalizeNewlines_of_notMem absent]

/-- A text whose line ends were made line feeds is cut where the text itself can be cut. -/
theorem exists_of_normalizeNewlines_eq_append {content left right : Text}
    (cut : normalizeNewlines content = left ++ right) :
    ∃ before after, content = before ++ after ∧ normalizeNewlines before = left ∧
      normalizeNewlines after = right := by
  fun_induction normalizeNewlines content generalizing left with
  | case1 =>
      obtain ⟨rfl, rfl⟩ := List.append_eq_nil_iff.mp cut.symm
      exact ⟨[], [], rfl, rfl, rfl⟩
  | case2 rest inductionHypothesis =>
      cases left with
      | nil => exact ⟨[], _, rfl, rfl, cut⟩
      | cons feed left =>
          obtain ⟨rfl, behind⟩ := List.cons_eq_cons.mp cut
          obtain ⟨before, after, rfl, rfl, rfl⟩ := inductionHypothesis behind
          exact ⟨'\r' :: '\n' :: before, after, rfl, rfl, rfl⟩
  | case3 first rest other inductionHypothesis =>
      cases left with
      | nil =>
          refine ⟨[], first :: rest, rfl, rfl, ?_⟩
          rw [normalizeNewlines]
          · exact cut
          · exact other
      | cons read left =>
          obtain ⟨rfl, behind⟩ := List.cons_eq_cons.mp cut
          obtain ⟨before, after, rfl, rfl, rfl⟩ := inductionHypothesis behind
          refine ⟨first :: before, after, rfl, ?_, rfl⟩
          rw [normalizeNewlines]
          intro tail isReturn shape
          exact other (tail ++ after) isReturn (by rw [shape, List.cons_append])

end EmbedScaffold.Text
