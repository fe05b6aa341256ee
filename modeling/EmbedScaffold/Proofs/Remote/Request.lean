import EmbedScaffold.Proofs.Text.Utf8
import EmbedScaffold.Remote.Publisher
import EmbedScaffold.Site.Tree

/-!
# What a request carries

The content that is sent is read back from base 64, and the path from its percent signs.
-/

namespace EmbedScaffold

/-! ## Base 64 -/

namespace Text

section Base64

variable {value : Nat}

theorem sixBits?_sixBitChar (small : value < 64) : sixBits? (sixBitChar value) = some value := by
  have every : ∀ value ∈ List.range 64, sixBits? (sixBitChar value) = some value := by
    decide +kernel
  exact every value (List.mem_range.mpr small)

theorem sixBitChar_ne_filler (small : value < 64) : sixBitChar value ≠ '=' := by
  have every : ∀ value ∈ List.range 64, sixBitChar value ≠ '=' := by
    decide +kernel
  exact every value (List.mem_range.mpr small)

theorem toUInt8_toNat (byte : UInt8) : byte.toNat.toUInt8 = byte :=
  (eq_toUInt8 rfl).symm

/-- Bytes are read back from their text. -/
theorem ofBase64?_base64 (bytes : List UInt8) : ofBase64? (base64 bytes) = some bytes := by
  fun_induction base64 bytes with
  | case1 first second third rest bits inductionHypothesis =>
      have boundFirst := first.toNat_lt_size
      have boundSecond := second.toNat_lt_size
      have boundThird := third.toNat_lt_size
      simp only [UInt8.size] at boundFirst boundSecond boundThird
      have notFiller : sixBitChar (bits % 64) ≠ '=' := sixBitChar_ne_filler (by omega)
      rw [ofBase64?.eq_4 _ _ _ _ _ (fun _ isFiller => absurd isFiller notFiller)
        (fun isFiller => absurd isFiller notFiller)]
      simp only [sixBits?_sixBitChar (show bits / 262144 < 64 by omega),
        sixBits?_sixBitChar (show bits / 4096 % 64 < 64 by omega),
        sixBits?_sixBitChar (show bits / 64 % 64 < 64 by omega),
        sixBits?_sixBitChar (show bits % 64 < 64 by omega), inductionHypothesis, bind,
        Option.bind_some]
      have whole : (bits / 262144 * 64 + bits / 4096 % 64) * 4096 +
          (bits / 64 % 64 * 64 + bits % 64) = bits := by omega
      rw [whole, show bits / 65536 = first.toNat by omega,
        show bits / 256 % 256 = second.toNat by omega, show bits % 256 = third.toNat by omega,
        toUInt8_toNat, toUInt8_toNat, toUInt8_toNat]
  | case2 first second bits =>
      have boundFirst := first.toNat_lt_size
      have boundSecond := second.toNat_lt_size
      simp only [UInt8.size] at boundFirst boundSecond
      have notFiller : sixBitChar (bits % 64) ≠ '=' := sixBitChar_ne_filler (by omega)
      rw [ofBase64?.eq_3 _ _ _ (fun isFiller => absurd isFiller notFiller)]
      simp only [sixBits?_sixBitChar (show bits / 4096 < 64 by omega),
        sixBits?_sixBitChar (show bits / 64 % 64 < 64 by omega),
        sixBits?_sixBitChar (show bits % 64 < 64 by omega), bind, Option.bind_some]
      have whole : (bits / 4096 * 64 + bits / 64 % 64) * 64 + bits % 64 = bits := by omega
      rw [whole, show bits / 1024 = first.toNat by omega,
        show bits / 4 % 256 = second.toNat by omega, toUInt8_toNat, toUInt8_toNat]
  | case3 first bits =>
      have boundFirst := first.toNat_lt_size
      simp only [UInt8.size] at boundFirst
      rw [ofBase64?.eq_2]
      simp only [sixBits?_sixBitChar (show bits / 64 < 64 by omega),
        sixBits?_sixBitChar (show bits % 64 < 64 by omega), bind, Option.bind_some]
      rw [show (bits / 64 * 64 + bits % 64) / 16 = first.toNat by omega, toUInt8_toNat]
  | case4 => rfl

end Base64

end Text

/-! ## Paths in a URL -/

namespace Remote

/-- The value of a hexadecimal digit in capitals. -/
def hexValue? (digit : Char) : Option Nat :=
  (List.range 16).find? fun value => hexDigit value = digit

/-- The bytes that a text in the path of a URL stands for: a percent sign and two digits give one
byte, all other characters stand for themselves. -/
def bytesOfPath? : Text → Option Bytes
  | [] => some []
  | '%' :: high :: low :: rest => do
      let value := (← hexValue? high) * 16 + (← hexValue? low)
      (bytesOfPath? rest).map (value.toUInt8 :: ·)
  | first :: rest =>
      if first = '%' then none else (bytesOfPath? rest).map (Text.encodeChar first ++ ·)

/-- The text that the path of a URL stands for. -/
def unquotePath? (content : Text) : Option Text := do
  match Text.decode 0 (← bytesOfPath? content) with
  | .ok read => some read
  | .error _ => none

section Quoting

variable {byte : UInt8} {rest : Text}

theorem hexValue?_hexDigit {value : Nat} (small : value < 16) :
    hexValue? (hexDigit value) = some value := by
  have every : ∀ value ∈ List.range 16, hexValue? (hexDigit value) = some value := by
    decide +kernel
  exact every value (List.mem_range.mpr small)

theorem bytesOfPath?_escape :
    bytesOfPath? ('%' :: hexDigit (byte.toNat / 16) :: hexDigit (byte.toNat % 16) :: rest) =
      (bytesOfPath? rest).map (byte :: ·) := by
  have bound := byte.toNat_lt_size
  simp only [UInt8.size] at bound
  rw [bytesOfPath?]
  simp only [hexValue?_hexDigit (show byte.toNat / 16 < 16 by omega),
    hexValue?_hexDigit (show byte.toNat % 16 < 16 by omega), bind, Option.bind_some]
  rw [show byte.toNat / 16 * 16 + byte.toNat % 16 = byte.toNat by omega, Text.toUInt8_toNat]

theorem bytesOfPath?_plain (plain : isPlainByte byte = true) :
    bytesOfPath? (Char.ofNat byte.toNat :: rest) = (bytesOfPath? rest).map (byte :: ·) := by
  obtain ⟨ascii, among⟩ := Bool.and_eq_true_iff.mp plain
  have small : byte.toNat < 128 := by simpa [UInt8.lt_iff_toNat_lt] using ascii
  have noSign : Char.ofNat byte.toNat ≠ '%' := by
    intro same
    rw [same] at among
    exact absurd among (by decide)
  have code : (Char.ofNat byte.toNat).toNat = byte.toNat :=
    Text.toNat_ofNat_of_valid (.inl (by omega))
  have encodes : Text.encodeChar (Char.ofNat byte.toNat) = [byte] := by
    rw [Text.encodeChar, code, if_pos small, Text.toUInt8_toNat]
  rw [bytesOfPath?, if_neg noSign, encodes]
  · rfl
  · intro high low others same
    exact absurd same noSign

theorem bytesOfPath?_quoted (bytes : Bytes) :
    bytesOfPath? (bytes.flatMap fun byte =>
      if isPlainByte byte then [Char.ofNat byte.toNat]
      else ['%', hexDigit (byte.toNat / 16), hexDigit (byte.toNat % 16)]) = some bytes := by
  induction bytes with
  | nil => rfl
  | cons byte rest inductionHypothesis =>
      rw [List.flatMap_cons]
      by_cases plain : isPlainByte byte = true
      · rw [if_pos plain, List.singleton_append, bytesOfPath?_plain plain, inductionHypothesis]
        rfl
      · rw [if_neg plain]
        simp only [List.cons_append, List.nil_append]
        rw [bytesOfPath?_escape, inductionHypothesis]
        rfl

/-- A text is read back from the path of a URL. -/
theorem unquotePath?_quotePath (content : Text) :
    unquotePath? (quotePath content) = some content := by
  rw [unquotePath?, quotePath, bytesOfPath?_quoted]
  simp only [bind, Option.bind_some, Text.decode_encode]

end Quoting

/-! ## The requests for a file -/

namespace Request

/-- The path of the file of a repository that a request is about. -/
def path? (repository : Text) (request : Request) : Option Text :=
  let front := "/repos/".toList ++ repository ++ "/contents/".toList
  if front.isPrefixOf request.url then unquotePath? (request.url.drop front.length) else none

/-- Whether a request reads the state of a file on a branch. -/
def Reads (request : Request) (repository branch path : Text) : Prop :=
  request.path? repository = some path ∧ request.payload = .reference branch

/-- Whether a request writes a content over a state of a file on a branch. -/
def Writes (request : Request) (repository branch path : Text) (state : Option JsonValue)
    (content : Bytes) : Prop :=
  ∃ members coded, request.path? repository = some path ∧ request.payload = .values members ∧
    JsonValue.memberOf? members "branch".toList = some (.text branch) ∧
    JsonValue.memberOf? members "content".toList = some (.text coded) ∧
    Text.ofBase64? coded = some content ∧ JsonValue.memberOf? members "sha".toList = state

end Request

/-- The path by which a file is known on a branch. -/
def filePath (path : Text) : Text :=
  Text.trimStart (· = '/') path

namespace Publisher

variable {publisher : Publisher} {path content : Text} {state : JsonValue}

/-- The request for the name of a file's present state. -/
def readRequest (publisher : Publisher) (path : Text) : Request :=
  publisher.request path (.reference publisher.branch)

/-- The request to write a file over a state. -/
def writeRequest (publisher : Publisher) (path content : Text) (state : JsonValue) : Request :=
  publisher.request path (.values (publisher.writeMembers path content state none))

def carried (state : JsonValue) : Option JsonValue :=
  if isGiven state then some state else none

theorem path?_request (payload : Payload) :
    (publisher.request path payload).path? publisher.repository = some (filePath path) := by
  have url : (publisher.request path payload).url =
      ("/repos/".toList ++ publisher.repository ++ "/contents/".toList) ++
        quotePath (filePath path) := rfl
  rw [Request.path?, url]
  rw [if_pos (List.isPrefixOf_iff_prefix.mpr (List.prefix_append _ _)), List.drop_left,
    unquotePath?_quotePath]

theorem memberOf?_content :
    JsonValue.memberOf? (publisher.writeMembers path content state none) "content".toList =
      some (.text (Text.base64 (Text.encode content))) := by
  unfold writeMembers
  cases isGiven state <;> rfl

theorem memberOf?_branch :
    JsonValue.memberOf? (publisher.writeMembers path content state none) "branch".toList =
      some (.text publisher.branch) := by
  unfold writeMembers
  cases isGiven state <;> rfl

theorem memberOf?_sha :
    JsonValue.memberOf? (publisher.writeMembers path content state none) "sha".toList =
      carried state := by
  unfold writeMembers carried
  cases isGiven state <;> rfl

theorem reads_readRequest :
    (publisher.readRequest path).Reads publisher.repository publisher.branch (filePath path) :=
  ⟨path?_request _, rfl⟩

theorem writes_writeRequest :
    (publisher.writeRequest path content state).Writes publisher.repository publisher.branch
      (filePath path) (carried state) (Text.encode content) :=
  ⟨_, _, path?_request _, rfl, memberOf?_branch, memberOf?_content, Text.ofBase64?_base64 _,
    memberOf?_sha⟩

theorem eq_of_writes {branch file : Text} {named : Option JsonValue} {bytes : Bytes}
    (writes : (publisher.writeRequest path content state).Writes publisher.repository branch file
      named bytes) :
    file = filePath path ∧ named = carried state ∧ bytes = Text.encode content := by
  obtain ⟨members, coded, sent, payload, -, carries, decodes, names⟩ := writes
  rw [writeRequest, path?_request] at sent
  cases payload
  rw [memberOf?_content] at carries
  cases carries
  rw [Text.ofBase64?_base64] at decodes
  rw [memberOf?_sha] at names
  exact ⟨(Option.some.inj sent).symm, names.symm, (Option.some.inj decodes).symm⟩

end Publisher

end Remote

end EmbedScaffold
