import EmbedScaffold.Proofs.Json.Reading
import EmbedScaffold.Proofs.Site.Path
import EmbedScaffold.Proofs.Site.Tree
import EmbedScaffold.Proofs.Text.Utf8
import EmbedScaffold.Settings.File

/-!
# Saving and loading settings

A settings file holds everything but the token.  It is read back as the settings without their
token, except where the number of seconds of a timeout has more digits than are read.
-/

namespace EmbedScaffold

open Text Literal JsonValue

namespace Settings

/-! ## What a settings file holds -/

def textMember (name : String) (content : Text) : Written :=
  ⟨name, jsonString content, .ok (.text content)⟩

def truthMember (name : String) (given : Bool) : Written :=
  ⟨name, truthText given, .ok (.boolean given)⟩

def numberMember (name : String) (given : Int) : Written :=
  ⟨name, ofInt given, readNatural given.toNat⟩

def listMember (name : String) (level : Nat) (texts : List Text) : Written :=
  ⟨name, listText level texts, .ok (.array (texts.map .text))⟩

def groupOf (level : Nat) (written : List Written) : Text :=
  groupText level (written.map fun member => (member.name, member.shown))

def groupMember (name : String) (level : Nat) (written : List Written) : Written :=
  ⟨name, groupOf level written, (readMembers written).map .object⟩

/-- The members of the group for formatting. -/
def formatMembers (format : FormatSettings) : List Written := [
  truthMember "enabled" format.enabled,
  listMember "command" 2 format.command,
  numberMember "timeout" format.timeout]

/-- The members of the group for the remote repository; the token is not among them. -/
def remoteMembers (remote : RemoteSettings) : List Written := [
  textMember "repo" remote.repository,
  textMember "branch" remote.branch,
  textMember "api_url" remote.address,
  numberMember "timeout" remote.timeout]

def fileMembers (settings : Settings) : List Written := [
  textMember "root_dir" settings.root.text,
  textMember "components_dir" settings.components,
  textMember "rollup_config" settings.bundler,
  textMember "embed_registry" settings.componentRegistry,
  textMember "config_registry" settings.schemaRegistry,
  textMember "component_props" settings.propsRegistry,
  textMember "mock_data" settings.mockData,
  textMember "embed_loader" settings.loader,
  textMember "public_embed_glob" settings.publicPattern,
  textMember "playground" settings.playground,
  truthMember "transactional" settings.transactional,
  truthMember "force" settings.force,
  truthMember "dry_run" settings.dryRun,
  groupMember "format" 1 (formatMembers settings.format),
  groupMember "github" 1 (remoteMembers settings.remote)]

theorem fileText_eq (settings : Settings) : settings.fileText = groupOf 0 settings.fileMembers :=
  rfl

/-! ## Reading the members -/

section Members

variable {rules : JsonRules} {levels : Nat}

theorem reads_listText (level : Nat) (texts : List Text) :
    ReadsAs rules 1 (listText level texts) (.ok (.array (texts.map .text))) := by
  rw [listText]
  split
  · next empty =>
      rw [List.isEmpty_iff.mp empty]
      exact ReadsAs.emptyList.mono (Nat.zero_le _)
  · next filled => exact ReadsAs.list _ _ fun empty => filled (List.isEmpty_iff.mpr empty)

theorem reads_number {given : Int} (positive : 1 ≤ given) :
    ReadsAs rules 0 (ofInt given) (readNatural given.toNat) := by
  obtain ⟨natural, rfl⟩ := Int.eq_ofNat_of_zero_le (Int.le_trans (by decide) positive)
  exact ReadsAs.natural (by omega)

theorem reads_group (level : Nat) {written : List Written} (nonempty : written ≠ [])
    (each : ∀ member ∈ written, ReadsAs rules levels member.shown member.result) :
    ReadsAs rules (levels + 1) (groupOf level written) ((readMembers written).map .object) := by
  have lines : (written.map fun member => (member.name, member.shown)).map
      (fun named => indentOf (level + 1) ++ jsonString named.1.toList ++ ": ".toList ++ named.2) =
      written.map fun member => indentOf (level + 1) ++ member.text := by
    rw [List.map_map]
    refine List.map_congr_left fun member _ => ?_
    simp [Written.text]
  have reads := ReadsAs.group (level + 1) level nonempty each
  rw [← lines] at reads
  exact reads

theorem reads_formatMembers {format : FormatSettings} (positive : 1 ≤ format.timeout) :
    ∀ member ∈ formatMembers format, ReadsAs rules 1 member.shown member.result := by
  intro member among
  simp only [formatMembers, List.mem_cons, List.not_mem_nil, or_false] at among
  rcases among with rfl | rfl | rfl
  · exact (ReadsAs.truth _).mono (Nat.zero_le _)
  · exact reads_listText 2 _
  · exact (reads_number positive).mono (Nat.zero_le _)

theorem reads_remoteMembers {remote : RemoteSettings} (positive : 1 ≤ remote.timeout) :
    ∀ member ∈ remoteMembers remote, ReadsAs rules 1 member.shown member.result := by
  intro member among
  simp only [remoteMembers, List.mem_cons, List.not_mem_nil, or_false] at among
  rcases among with rfl | rfl | rfl | rfl
  · exact (ReadsAs.text _).mono (Nat.zero_le _)
  · exact (ReadsAs.text _).mono (Nat.zero_le _)
  · exact (ReadsAs.text _).mono (Nat.zero_le _)
  · exact (reads_number positive).mono (Nat.zero_le _)

/-- A positive number of seconds in both groups. -/
def IsTimed (settings : Settings) : Prop :=
  1 ≤ settings.format.timeout ∧ 1 ≤ settings.remote.timeout

instance (settings : Settings) : Decidable settings.IsTimed :=
  inferInstanceAs (Decidable (_ ∧ _))

theorem reads_textMember (name : String) (content : Text) :
    ReadsAs rules 2 (textMember name content).shown (textMember name content).result :=
  (ReadsAs.text content).mono (Nat.zero_le _)

theorem reads_truthMember (name : String) (given : Bool) :
    ReadsAs rules 2 (truthMember name given).shown (truthMember name given).result :=
  (ReadsAs.truth given).mono (Nat.zero_le _)

theorem reads_groupMember (name : String) (level : Nat) {written : List Written}
    (nonempty : written ≠ [])
    (each : ∀ member ∈ written, ReadsAs rules 1 member.shown member.result) :
    ReadsAs rules 2 (groupMember name level written).shown
      (groupMember name level written).result :=
  reads_group level nonempty each

theorem reads_fileMembers {settings : Settings} (timed : settings.IsTimed) :
    ∀ member ∈ settings.fileMembers, ReadsAs rules 2 member.shown member.result := by
  have format : ReadsAs rules 2 (groupMember "format" 1 (formatMembers settings.format)).shown _ :=
    reads_groupMember "format" 1 (List.cons_ne_nil _ _) (reads_formatMembers timed.1)
  have remote : ReadsAs rules 2 (groupMember "github" 1 (remoteMembers settings.remote)).shown _ :=
    reads_groupMember "github" 1 (List.cons_ne_nil _ _) (reads_remoteMembers timed.2)
  simp only [fileMembers, List.forall_mem_cons]
  exact ⟨reads_textMember _ _, reads_textMember _ _, reads_textMember _ _, reads_textMember _ _,
    reads_textMember _ _, reads_textMember _ _, reads_textMember _ _, reads_textMember _ _,
    reads_textMember _ _, reads_textMember _ _, reads_truthMember _ _, reads_truthMember _ _,
    reads_truthMember _ _, format, remote, by simp⟩

/-- A settings file is read as its members. -/
theorem ofText_fileText {settings : Settings} (timed : settings.IsTimed) :
    JsonValue.ofText fileRules settings.fileText =
      (readMembers settings.fileMembers).map .object := by
  have whole : ReadsAs fileRules 3 (groupOf 0 settings.fileMembers) _ :=
    reads_group 0 (List.cons_ne_nil _ _) (reads_fileMembers timed)
  rw [← fileText_eq] at whole
  have reads := whole fileRules.depth (settings.fileText.length + 1) [] (by decide)
    (Nat.le_succ _) (by rintro _ ⟨⟩)
  rw [List.append_nil] at reads
  rw [JsonValue.ofText, reads]
  cases readMembers settings.fileMembers <;> rfl

end Members

/-! ## Checking the members -/

/-- A number of seconds that is read: one of not too many digits. -/
def IsShort (timeout : Int) : Prop :=
  (ofInt timeout).length ≤ longestInteger

instance (timeout : Int) : Decidable (IsShort timeout) :=
  inferInstanceAs (Decidable (_ ≤ _))

/-- Both numbers of seconds are read. -/
def IsLoadable (settings : Settings) : Prop :=
  IsShort settings.format.timeout ∧ IsShort settings.remote.timeout

instance (settings : Settings) : Decidable settings.IsLoadable :=
  inferInstanceAs (Decidable (_ ∧ _))

/-- The settings that a file keeps: those without the token. -/
def withoutToken (settings : Settings) : Settings :=
  { settings with remote := { settings.remote with token := [] } }

section Checks

variable {members : Members} (name : String)

theorem member_eq {α : Type} {check : JsonValue → Checked α} {value : JsonValue} {read otherwise : α}
    (found : memberOf? members name.toList = some value) (fits : check value = .ok read) :
    member members name check otherwise = .ok read := by
  rw [member, found]
  dsimp only
  rw [fits]
  rfl

theorem member_text {content otherwise : Text}
    (found : memberOf? members name.toList = some (.text content)) :
    member members name checkText otherwise = .ok content :=
  member_eq name found rfl

theorem member_truth {given otherwise : Bool}
    (found : memberOf? members name.toList = some (.boolean given)) :
    member members name checkTruth otherwise = .ok given :=
  member_eq name found rfl

theorem list_checkText (number : Nat) (texts : List Text) :
    Checked.list checkText number (texts.map .text) = .ok texts := by
  induction texts generalizing number with
  | nil => rfl
  | cons first others inductionHypothesis =>
      rw [List.map_cons, Checked.list, inductionHypothesis]
      rfl

theorem member_timeout {given otherwise : Int} (positive : 1 ≤ given)
    (found : memberOf? members name.toList = some (.integer given)) :
    member members name checkTimeout otherwise = .ok given := by
  refine member_eq name found ?_
  show (if given < 1 then Checked.misfit Misfit.tooSmall else .ok given) = _
  rw [if_neg (Int.not_lt.mpr positive)]

end Checks

theorem readNatural_of_isShort {given : Int} (positive : 1 ≤ given) (short : IsShort given) :
    readNatural given.toNat = .ok (.integer given) := by
  obtain ⟨natural, rfl⟩ := Int.eq_ofNat_of_zero_le (Int.le_trans (by decide) positive)
  exact if_neg (Nat.not_lt.mpr short)

theorem exists_readNatural_error {given : Int} (positive : 1 ≤ given) (long : ¬ IsShort given) :
    ∃ fault, readNatural given.toNat = .error fault := by
  obtain ⟨natural, rfl⟩ := Int.eq_ofNat_of_zero_le (Int.le_trans (by decide) positive)
  exact ⟨_, if_pos (Nat.lt_of_not_le long)⟩

/-- A group for formatting is read as its settings. -/
theorem checkFormat_written {format : FormatSettings} (positive : 1 ≤ format.timeout)
    (short : IsShort format.timeout) :
    ∃ members, readMembers (formatMembers format) = .ok members ∧
      checkFormat (.object members) = .ok format := by
  refine ⟨[("enabled".toList, .boolean format.enabled),
    ("command".toList, .array (format.command.map .text)),
    ("timeout".toList, .integer format.timeout)], ?_, ?_⟩
  · rw [formatMembers, numberMember, readNatural_of_isShort positive short]
    rfl
  · rw [checkFormat]
    dsimp only
    rw [member_truth "enabled" rfl, member_eq "command" rfl (list_checkText 0 format.command),
      member_timeout "timeout" positive rfl]
    rfl

/-- A group for the remote repository is read as its settings without the token. -/
theorem checkRemote_written {remote : RemoteSettings} (positive : 1 ≤ remote.timeout)
    (short : IsShort remote.timeout) :
    ∃ members, readMembers (remoteMembers remote) = .ok members ∧
      checkRemote (.object members) = .ok { remote with token := [] } := by
  refine ⟨[("repo".toList, .text remote.repository), ("branch".toList, .text remote.branch),
    ("api_url".toList, .text remote.address), ("timeout".toList, .integer remote.timeout)], ?_, ?_⟩
  · rw [remoteMembers, numberMember, readNatural_of_isShort positive short]
    rfl
  · rw [checkRemote]
    dsimp only
    rw [member_text "repo" rfl, member_text "branch" rfl, member_text "api_url" rfl,
      member_timeout "timeout" positive rfl]
    rfl

/-- What is read of a settings file fits the settings, without their token. -/
theorem ofText_of_isLoadable {settings : Settings} {given : Text}
    (root : settings.root = Path.ofText given) (timed : settings.IsTimed)
    (loadable : settings.IsLoadable) :
    ofText settings.fileText = .ok settings.withoutToken := by
  obtain ⟨formatMembers, formatRead, formatFits⟩ := checkFormat_written timed.1 loadable.1
  obtain ⟨remoteMembers, remoteRead, remoteFits⟩ := checkRemote_written timed.2 loadable.2
  have rooted : checkPath (.text settings.root.text) = .ok settings.root := by
    rw [checkPath, root, Path.ofText_text]
  have read : readMembers settings.fileMembers = .ok [
      ("root_dir".toList, .text settings.root.text),
      ("components_dir".toList, .text settings.components),
      ("rollup_config".toList, .text settings.bundler),
      ("embed_registry".toList, .text settings.componentRegistry),
      ("config_registry".toList, .text settings.schemaRegistry),
      ("component_props".toList, .text settings.propsRegistry),
      ("mock_data".toList, .text settings.mockData),
      ("embed_loader".toList, .text settings.loader),
      ("public_embed_glob".toList, .text settings.publicPattern),
      ("playground".toList, .text settings.playground),
      ("transactional".toList, .boolean settings.transactional),
      ("force".toList, .boolean settings.force),
      ("dry_run".toList, .boolean settings.dryRun),
      ("format".toList, .object formatMembers),
      ("github".toList, .object remoteMembers)] := by
    rw [fileMembers, groupMember, groupMember, formatRead, remoteRead]
    rfl
  rw [ofText, ofText_fileText timed, read]
  dsimp only [Except.map]
  rw [ofMembers, member_eq "root_dir" rfl rooted, member_eq "format" rfl formatFits,
    member_eq "github" rfl remoteFits]
  rfl

theorem exists_readMembers_error {written : List Written} {member : Written} {fault : JsonFault}
    (among : member ∈ written) (fails : member.result = .error fault) :
    ∃ other, readMembers written = .error other := by
  induction written with
  | nil => cases among
  | cons first others inductionHypothesis =>
      rw [readMembers, List.mapM_cons]
      cases found : first.result with
      | error other => exact ⟨other, rfl⟩
      | ok value =>
          rcases List.mem_cons.mp among with rfl | further
          · rw [fails] at found
            cases found
          · obtain ⟨other, failed⟩ := inductionHypothesis further
            rw [readMembers] at failed
            exact ⟨other, by rw [failed]; rfl⟩

/-- A number of seconds with too many digits makes the whole file unreadable. -/
theorem ofText_of_not_isLoadable {settings : Settings} (timed : settings.IsTimed)
    (notLoadable : ¬ settings.IsLoadable) : ofText settings.fileText = Checked.misfit .noJson := by
  have failed : ∃ fault, readMembers settings.fileMembers = .error fault := by
    rw [IsLoadable, not_and_or] at notLoadable
    rcases notLoadable with long | long
    · obtain ⟨fault, refused⟩ := exists_readNatural_error timed.1 long
      have number : numberMember "timeout" settings.format.timeout ∈
          formatMembers settings.format := by simp [formatMembers]
      obtain ⟨other, group⟩ := exists_readMembers_error number refused
      have member : groupMember "format" 1 (formatMembers settings.format) ∈
          settings.fileMembers := by simp [fileMembers]
      exact exists_readMembers_error member (by rw [groupMember, group]; rfl)
    · obtain ⟨fault, refused⟩ := exists_readNatural_error timed.2 long
      have number : numberMember "timeout" settings.remote.timeout ∈
          remoteMembers settings.remote := by simp [remoteMembers]
      obtain ⟨other, group⟩ := exists_readMembers_error number refused
      have member : groupMember "github" 1 (remoteMembers settings.remote) ∈
          settings.fileMembers := by simp [fileMembers]
      exact exists_readMembers_error member (by rw [groupMember, group]; rfl)
  obtain ⟨fault, failed⟩ := failed
  rw [ofText, ofText_fileText timed, failed]
  rfl

/-! ## Line ends -/

theorem notMem_join {other : Char} {separator : Text} {pieces : List Text}
    (absent : other ∉ separator) (each : ∀ piece ∈ pieces, other ∉ piece) :
    other ∉ Text.join separator pieces := by
  induction pieces with
  | nil => exact List.not_mem_nil
  | cons first others inductionHypothesis =>
      have here := each first List.mem_cons_self
      cases others with
      | nil => exact here
      | cons second others =>
          have further := inductionHypothesis fun piece among =>
            each piece (List.mem_cons_of_mem _ among)
          rw [join_cons_cons]
          simp [here, absent, further]

theorem notMem_indentOf (level : Int) : '\r' ∉ indentOf level := by
  intro member
  obtain ⟨step, isStep, member⟩ := List.mem_flatten.mp member
  rw [List.eq_of_mem_replicate isStep] at member
  exact absurd member (by decide)

/-- Lines between a mark that opens them and one that closes them. -/
theorem notMem_lines {opening : Text} {closing : Char} (level : Int) {lines : List Text}
    (noOpening : '\r' ∉ opening) (noClosing : '\r' ≠ closing) (each : ∀ line ∈ lines, '\r' ∉ line) :
    '\r' ∉ opening ++ Text.join ",\n".toList lines ++ '\n' :: indentOf level ++ [closing] := by
  have joined : '\r' ∉ Text.join ",\n".toList lines := notMem_join (by decide) each
  rw [List.append_assoc, List.append_assoc, List.mem_append, List.mem_append, not_or, not_or]
  exact ⟨noOpening, joined, by simp [notMem_indentOf, noClosing]⟩

theorem notMem_jsonString (content : Text) : '\r' ∉ jsonString content :=
  notMem_jsonString_of_control (by decide) content

theorem notMem_listText (level : Nat) (texts : List Text) : '\r' ∉ listText level texts := by
  rw [listText]
  split
  · decide
  · refine notMem_lines _ (by decide) (by decide) ?_
    intro line among
    obtain ⟨item, -, rfl⟩ := List.mem_map.mp among
    simp [notMem_indentOf, notMem_jsonString]

theorem notMem_truthText (given : Bool) : '\r' ∉ truthText given := by
  cases given <;> decide

theorem notMem_groupOf (level : Nat) {written : List Written}
    (each : ∀ member ∈ written, '\r' ∉ member.shown) : '\r' ∉ groupOf level written := by
  refine notMem_lines _ (by decide) (by decide) ?_
  intro line among
  obtain ⟨named, isNamed, rfl⟩ := List.mem_map.mp among
  obtain ⟨member, isMember, rfl⟩ := List.mem_map.mp isNamed
  have separator : '\r' ∉ ": ".toList := by decide
  simp only [List.mem_append, not_or]
  exact ⟨⟨⟨notMem_indentOf _, notMem_jsonString _⟩, separator⟩, each member isMember⟩

/-- A settings file holds no carriage return, whatever the settings hold. -/
theorem notMem_fileText (settings : Settings) : '\r' ∉ settings.fileText := by
  have text (name : String) (content : Text) : '\r' ∉ (textMember name content).shown :=
    notMem_jsonString content
  have truth (name : String) (given : Bool) : '\r' ∉ (truthMember name given).shown :=
    notMem_truthText given
  have number (name : String) (given : Int) : '\r' ∉ (numberMember name given).shown :=
    notMem_ofInt given (by decide) (by decide)
  have format : '\r' ∉ (groupMember "format" 1 (formatMembers settings.format)).shown := by
    refine notMem_groupOf 1 ?_
    simp only [formatMembers, List.forall_mem_cons]
    exact ⟨truth _ _, notMem_listText 2 _, number _ _, by simp⟩
  have remote : '\r' ∉ (groupMember "github" 1 (remoteMembers settings.remote)).shown := by
    refine notMem_groupOf 1 ?_
    simp only [remoteMembers, List.forall_mem_cons]
    exact ⟨text _ _, text _ _, text _ _, number _ _, by simp⟩
  rw [fileText_eq]
  refine notMem_groupOf 0 ?_
  simp only [fileMembers, List.forall_mem_cons]
  exact ⟨text _ _, text _ _, text _ _, text _ _, text _ _, text _ _, text _ _, text _ _, text _ _,
    text _ _, truth _ _, truth _ _, truth _ _, format, remote, by simp⟩

/-! ## Saving and loading -/

/-- What is loaded from a file that was just saved is what is read of the text. -/
theorem load_of_save {settings : Settings} {site saved : Site} {target : Path}
    (saves : settings.save site target = .ok saved) :
    load saved target = (ofText settings.fileText).mapError .settings := by
  rw [save] at saves
  split at saves
  · cases saves
  · obtain ⟨prepared, place, grown, opens, rfl⟩ := Site.write_ok (ok_of_mapError saves)
    have reopens : Site.Opens (prepared.setFile place (encode settings.fileText)) target place :=
      opens.setFile
    rw [load, reopens.locates]
    dsimp only
    rw [reopens.free, if_neg Bool.false_ne_true, Site.file?_setFile, if_pos rfl]
    dsimp only
    rw [decode_encode]
    dsimp only
    rw [normalizeNewlines_of_notMem (notMem_fileText settings)]
    cases ofText settings.fileText <;> rfl

/-- Settings are written to a file that can be opened. -/
theorem save_of_opens {settings : Settings} {site : Site} {target : Path} {place : Place}
    (noNull : target.hasNull = false) (opens : Site.Opens site target place) :
    settings.save site target = .ok (site.setFile place (encode settings.fileText)) := by
  rw [save, noNull, if_neg Bool.false_ne_true, opens.write]
  rfl

/-- Settings that were saved are loaded without their token, exactly if both numbers of seconds
have no more digits than are read.  The token leaves no trace in the file. -/
theorem load_save_iff {settings : Settings} {given : Text} {site saved : Site} {target : Path}
    (root : settings.root = Path.ofText given) (timed : settings.IsTimed)
    (saves : settings.save site target = .ok saved) :
    (load saved target = .ok settings.withoutToken ↔ settings.IsLoadable) ∧
      ∀ other : Settings, other.withoutToken = settings.withoutToken →
        other.fileText = settings.fileText := by
  rw [load_of_save saves]
  refine ⟨⟨fun loads => ?_, fun loadable => ?_⟩, fun other same => ?_⟩
  · by_contra notLoadable
    rw [ofText_of_not_isLoadable timed notLoadable] at loads
    cases loads
  · rw [ofText_of_isLoadable root timed loadable]
    rfl
  · have kept (settings : Settings) : settings.withoutToken.fileText = settings.fileText := rfl
    rw [← kept other, same, kept]

/-- A site without files. -/
def bareSite : Site :=
  ⟨[], [], []⟩

/-- The file that settings are kept in, at the root of the site. -/
def bareTarget : Path :=
  Path.ofText "embedify.json".toList

theorem opens_bareTarget : Site.Opens bareSite bareTarget ["embedify.json".toList] :=
  ⟨by decide, by decide, by decide⟩

/-- Settings with a token, with quotes and line feeds in their texts, and with a command. -/
theorem load_save_iff_secret :
    let settings : Settings := {
      root := Path.ofText "sites/\"main\"".toList
      publicPattern := "é\r\n\\*.js".toList
      format := { command := ["npx".toList, []], timeout := 7 }
      remote := { repository := "acme/embeds".toList, token := "secret".toList } }
    let saved := bareSite.setFile ["embedify.json".toList] (encode settings.fileText)
    settings.IsTimed ∧ settings.save bareSite bareTarget = .ok saved ∧
      load saved bareTarget = .ok settings.withoutToken :=
  let timed := by decide
  let saves := save_of_opens (by decide) opens_bareTarget
  ⟨timed, saves, (load_save_iff rfl timed saves).1.mpr (by decide)⟩

/-- The least number of seconds that is too long to be read. -/
def endless : Int :=
  Nat.pow 10 longestInteger

theorem length_ofNat_pow {length : Nat} (positive : 0 < length) :
    ¬ (ofNat (Nat.pow 10 length)).length ≤ length :=
  fun short => Nat.lt_irrefl _ ((Nat.length_toDigits_le_iff (by decide) positive).mp short)

theorem not_isShort_endless : ¬ IsShort endless := by
  have natural : ofInt endless = ofNat (Nat.pow 10 longestInteger) := by
    rw [endless, ofInt, if_neg (Int.not_lt.mpr (Int.natCast_nonneg _)), Int.natAbs_natCast]
  rw [IsShort, natural]
  exact length_ofNat_pow (by decide)

theorem one_le_endless : 1 ≤ endless := by
  have positive (length : Nat) : 1 ≤ (Nat.pow 10 length : Int) := by
    have natural : 0 < Nat.pow 10 length := Nat.pow_pos (by decide)
    omega
  exact positive longestInteger

/-- A timeout that is too long is saved, and nothing is loaded from the file. -/
theorem load_save_endless :
    let settings : Settings := { format := { timeout := endless } }
    ∃ saved, settings.save bareSite bareTarget = .ok saved ∧
      load saved bareTarget ≠ .ok settings.withoutToken := by
  intro settings
  have timed : settings.IsTimed := ⟨one_le_endless, by decide⟩
  have saves : settings.save bareSite bareTarget = .ok _ :=
    save_of_opens (by decide) opens_bareTarget
  refine ⟨_, saves, ?_⟩
  rw [load_of_save saves, ofText_of_not_isLoadable timed fun loadable =>
    not_isShort_endless loadable.1]
  rintro ⟨⟩

end Settings

end EmbedScaffold
