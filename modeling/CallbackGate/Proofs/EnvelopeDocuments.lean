import CallbackGate.Proofs.Layouts

/-!
# Envelopes in any order

An envelope is read from the elements of its fields in any order, with elements of
others between them.  It holds the values that were written, and of every other field it
holds what a field has that is not there.  A field that stands twice, in the envelope or
in a record inside it, makes the document one that cannot be read.

There are two groups.

* Records inside envelopes.  A scan, the pictures that were sent and the place that was
  picked.
* Envelopes.  `Envelope.layout` is about every field but those that hold fractions, and
  `Envelope.ofBody_of_fields` is the reading of a whole document.
-/

namespace CallbackGate

open Markup (Child Draft Element Layout Node Spelling)

/-! ## Records inside envelopes -/

namespace ScanCodeInfo

/-- What a scan holds. -/
inductive FieldName
  | scanType | scanResult
  deriving DecidableEq, Repr

def layout : Layout ScanCodeInfo FieldName where
  fields :=
    [.text "ScanType" fun v r => { r with scanType := v },
      .text "ScanResult" fun v r => { r with scanResult := v }]
  element
    | .scanType => "ScanType"
    | .scanResult => "ScanResult"
  spelling _ := .text
  set
    | .scanType, value, record => { record with scanType := value }
    | .scanResult, value, record => { record with scanResult := value }
  make chosen :=
    { scanType := (chosen .scanType).getD ""
      scanResult := (chosen .scanResult).getD "" }
  plainName_element name := by cases name <;> decide
  find?_element name := by cases name <;> exact rfl
  set_make name value chosen := by cases name <;> exact rfl

end ScanCodeInfo

namespace SendPicsInfo

/-- What is known of the pictures that were sent. -/
inductive FieldName
  | count | picList
  deriving DecidableEq, Repr

/-- The sum of a picture as it is written. -/
def itemDrafts (md5Sum : String) : List Draft :=
  [.cdata "PicMd5Sum" md5Sum]

theorem itemReader_itemDrafts (md5Sum : String) :
    itemReader [] (Draft.nodes (itemDrafts md5Sum)) = .ok md5Sum := by
  apply Markup.Record.read_of_readChildren
  · show Markup.Record.readChildren _ _ _
      [.element "PicMd5Sum" [] [.text (Draft.sectionRun md5Sum)]] = _
    rw [Markup.Record.readChildren_text rfl rfl (Markup.Record.contentText_sectionRun md5Sum)]
    rfl
  · rfl

def layout : Layout SendPicsInfo FieldName where
  fields :=
    [.bareNumeral "Count" Numeral.uint32 fun v r => { r with count := v },
      .record "PicList" (Markup.Record.items "item" itemReader)
        fun v r => { r with md5Sums := v }]
  element
    | .count => "Count"
    | .picList => "PicList"
  spelling
    | .count => .bareNumeral Numeral.uint32 (fun n => n.toNat) Numeral.uint32_toString
    | .picList =>
      .items "item" itemReader itemDrafts (by decide) (fun _ => rfl) itemReader_itemDrafts
  set
    | .count, value, record => { record with count := value }
    | .picList, value, record => { record with md5Sums := value }
  make chosen :=
    { count := (chosen .count).getD (0 : UInt32)
      md5Sums := (chosen .picList).getD [] }
  plainName_element name := by cases name <;> decide
  find?_element name := by cases name <;> exact rfl
  set_make name value chosen := by cases name <;> exact rfl

end SendPicsInfo

namespace SendLocationInfo

/-- What is known of a place in words. -/
inductive FieldName
  | label | poiname
  deriving DecidableEq, Repr

def layout : Layout SendLocationInfo FieldName where
  fields :=
    [.numeral "Location_X" Text.Binary64.parse fun v r => { r with locationX := some v },
      .numeral "Location_Y" Text.Binary64.parse fun v r => { r with locationY := some v },
      .numeral "Scale" Text.Binary64.parse fun v r => { r with scale := some v },
      .text "Label" fun v r => { r with label := some v },
      .text "Poiname" fun v r => { r with poiname := some v }]
  element
    | .label => "Label"
    | .poiname => "Poiname"
  spelling _ := .text
  set
    | .label, value, record => { record with label := some value }
    | .poiname, value, record => { record with poiname := some value }
  make chosen := { label := chosen .label, poiname := chosen .poiname }
  plainName_element name := by cases name <;> decide
  find?_element name := by cases name <;> exact rfl
  set_make name value chosen := by cases name <;> exact rfl

end SendLocationInfo

/-! ## Envelopes -/

namespace Envelope

/-- What an envelope holds, but for fractions. -/
inductive FieldName
  | toUserName | fromUserName | createTime | msgType | event | msgId | content | picUrl | mediaId
  | format | recognition | thumbMediaId | label | title | description | url | fileKey | fileMd5
  | fileTotalLen | eventKey | ticket | menuId | scanCodeInfo | sendPicsInfo | sendLocationInfo
  | jobId | status | totalCount | filterCount | sentCount | errorCount | kfAccount
  | fromKfAccount | toKfAccount | cardId | refuseReason | userCardCode | isGiveByFriend
  | friendUserName | outerId | oldUserCardCode | consumeSource | locationName | staffOpenId
  | failReason | expiredTime
  deriving DecidableEq, Repr

namespace FieldName

/-- The element of a field. -/
def element : FieldName → String
  | .toUserName => "ToUserName"
  | .fromUserName => "FromUserName"
  | .createTime => "CreateTime"
  | .msgType => "MsgType"
  | .event => "Event"
  | .msgId => "MsgId"
  | .content => "Content"
  | .picUrl => "PicUrl"
  | .mediaId => "MediaId"
  | .format => "Format"
  | .recognition => "Recognition"
  | .thumbMediaId => "ThumbMediaId"
  | .label => "Label"
  | .title => "Title"
  | .description => "Description"
  | .url => "Url"
  | .fileKey => "FileKey"
  | .fileMd5 => "FileMd5"
  | .fileTotalLen => "FileTotalLen"
  | .eventKey => "EventKey"
  | .ticket => "Ticket"
  | .menuId => "MenuId"
  | .scanCodeInfo => "ScanCodeInfo"
  | .sendPicsInfo => "SendPicsInfo"
  | .sendLocationInfo => "SendLocationInfo"
  | .jobId => "MsgID"
  | .status => "Status"
  | .totalCount => "TotalCount"
  | .filterCount => "FilterCount"
  | .sentCount => "SentCount"
  | .errorCount => "ErrorCount"
  | .kfAccount => "KfAccount"
  | .fromKfAccount => "FromKfAccount"
  | .toKfAccount => "ToKfAccount"
  | .cardId => "CardId"
  | .refuseReason => "RefuseReason"
  | .userCardCode => "UserCardCode"
  | .isGiveByFriend => "IsGiveByFriend"
  | .friendUserName => "FriendUserName"
  | .outerId => "OuterId"
  | .oldUserCardCode => "OldUserCardCode"
  | .consumeSource => "ConsumeSource"
  | .locationName => "LocationName"
  | .staffOpenId => "StaffOpenId"
  | .failReason => "FailReason"
  | .expiredTime => "ExpiredTime"

/-- Numbers are written in decimal, records as groups, and everything else as strings. -/
def spelling : FieldName → Spelling Envelope
  | .createTime | .msgId | .jobId | .outerId | .expiredTime =>
    .numeral Numeral.int64 Int64.toInt Numeral.int64_toString
  | .fileTotalLen | .totalCount | .filterCount | .sentCount | .errorCount =>
    .numeral Numeral.uint64 (fun n => n.toNat) Numeral.uint64_toString
  | .isGiveByFriend => .numeral Numeral.uint8 (fun n => n.toNat) Numeral.uint8_toString
  | .scanCodeInfo => .record ScanCodeInfo.layout
  | .sendPicsInfo => .record SendPicsInfo.layout
  | .sendLocationInfo => .record SendLocationInfo.layout
  | _ => .text

/-- The envelope with another value in a field. -/
def set : (name : FieldName) → name.spelling.Result → Envelope → Envelope
  | .toUserName, value, envelope => { envelope with toUserName := value }
  | .fromUserName, value, envelope => { envelope with fromUserName := value }
  | .createTime, value, envelope => { envelope with createTime := value }
  | .msgType, value, envelope => { envelope with msgType := value }
  | .event, value, envelope => { envelope with event := some value }
  | .msgId, value, envelope => { envelope with msgId := some value }
  | .content, value, envelope => { envelope with content := some value }
  | .picUrl, value, envelope => { envelope with picUrl := some value }
  | .mediaId, value, envelope => { envelope with mediaId := some value }
  | .format, value, envelope => { envelope with format := some value }
  | .recognition, value, envelope => { envelope with recognition := some value }
  | .thumbMediaId, value, envelope => { envelope with thumbMediaId := some value }
  | .label, value, envelope => { envelope with label := some value }
  | .title, value, envelope => { envelope with title := some value }
  | .description, value, envelope => { envelope with description := some value }
  | .url, value, envelope => { envelope with url := some value }
  | .fileKey, value, envelope => { envelope with fileKey := some value }
  | .fileMd5, value, envelope => { envelope with fileMd5 := some value }
  | .fileTotalLen, value, envelope => { envelope with fileTotalLen := some value }
  | .eventKey, value, envelope => { envelope with eventKey := some value }
  | .ticket, value, envelope => { envelope with ticket := some value }
  | .menuId, value, envelope => { envelope with menuId := some value }
  | .scanCodeInfo, value, envelope => { envelope with scanCodeInfo := some value }
  | .sendPicsInfo, value, envelope => { envelope with sendPicsInfo := some value }
  | .sendLocationInfo, value, envelope => { envelope with sendLocationInfo := some value }
  | .jobId, value, envelope => { envelope with jobId := some value }
  | .status, value, envelope => { envelope with status := some value }
  | .totalCount, value, envelope => { envelope with totalCount := some value }
  | .filterCount, value, envelope => { envelope with filterCount := some value }
  | .sentCount, value, envelope => { envelope with sentCount := some value }
  | .errorCount, value, envelope => { envelope with errorCount := some value }
  | .kfAccount, value, envelope => { envelope with kfAccount := some value }
  | .fromKfAccount, value, envelope => { envelope with fromKfAccount := some value }
  | .toKfAccount, value, envelope => { envelope with toKfAccount := some value }
  | .cardId, value, envelope => { envelope with cardId := some value }
  | .refuseReason, value, envelope => { envelope with refuseReason := some value }
  | .userCardCode, value, envelope => { envelope with userCardCode := some value }
  | .isGiveByFriend, value, envelope => { envelope with isGiveByFriend := some value }
  | .friendUserName, value, envelope => { envelope with friendUserName := some value }
  | .outerId, value, envelope => { envelope with outerId := some value }
  | .oldUserCardCode, value, envelope => { envelope with oldUserCardCode := some value }
  | .consumeSource, value, envelope => { envelope with consumeSource := some value }
  | .locationName, value, envelope => { envelope with locationName := some value }
  | .staffOpenId, value, envelope => { envelope with staffOpenId := some value }
  | .failReason, value, envelope => { envelope with failReason := some value }
  | .expiredTime, value, envelope => { envelope with expiredTime := some value }

end FieldName

/-- The envelope with these values, and with no others. -/
def ofChosen (chosen : (name : FieldName) → Option name.spelling.Value) : Envelope where
  toUserName := (chosen .toUserName).getD ""
  fromUserName := (chosen .fromUserName).getD ""
  createTime := (chosen .createTime).getD (0 : Int64)
  msgType := (chosen .msgType).getD ""
  event := chosen .event
  msgId := chosen .msgId
  content := chosen .content
  picUrl := chosen .picUrl
  mediaId := chosen .mediaId
  format := chosen .format
  recognition := chosen .recognition
  thumbMediaId := chosen .thumbMediaId
  label := chosen .label
  title := chosen .title
  description := chosen .description
  url := chosen .url
  fileKey := chosen .fileKey
  fileMd5 := chosen .fileMd5
  fileTotalLen := chosen .fileTotalLen
  eventKey := chosen .eventKey
  ticket := chosen .ticket
  menuId := chosen .menuId
  scanCodeInfo := (chosen .scanCodeInfo).map ScanCodeInfo.layout.ofEntries
  sendPicsInfo := (chosen .sendPicsInfo).map SendPicsInfo.layout.ofEntries
  sendLocationInfo := (chosen .sendLocationInfo).map SendLocationInfo.layout.ofEntries
  jobId := chosen .jobId
  status := chosen .status
  totalCount := chosen .totalCount
  filterCount := chosen .filterCount
  sentCount := chosen .sentCount
  errorCount := chosen .errorCount
  kfAccount := chosen .kfAccount
  fromKfAccount := chosen .fromKfAccount
  toKfAccount := chosen .toKfAccount
  cardId := chosen .cardId
  refuseReason := chosen .refuseReason
  userCardCode := chosen .userCardCode
  isGiveByFriend := chosen .isGiveByFriend
  friendUserName := chosen .friendUserName
  outerId := chosen .outerId
  oldUserCardCode := chosen .oldUserCardCode
  consumeSource := chosen .consumeSource
  locationName := chosen .locationName
  staffOpenId := chosen .staffOpenId
  failReason := chosen .failReason
  expiredTime := chosen .expiredTime

theorem FieldName.find?_element (name : FieldName) :
    fields.find? (·.name == name.element) =
      some (name.spelling.field name.element name.set) := by
  cases name
  all_goals
    -- The kind is opened first: else both readers are evaluated to compare them.
    simp only [FieldName.spelling, Spelling.text, Spelling.numeral, Spelling.number,
      Spelling.record]
    rfl

/-- The fields of envelopes and how they are written. -/
def layout : Layout Envelope FieldName where
  fields := fields
  element := FieldName.element
  spelling := FieldName.spelling
  set := FieldName.set
  make := ofChosen
  plainName_element name := by cases name <;> decide
  find?_element := FieldName.find?_element
  set_make name value chosen := by cases name <;> rfl

theorem reader_layout : reader = layout.reader :=
  rfl

/-- Whatever strings and numbers are written for whichever fields, in whatever order and
with whatever elements of others between them, the envelope holds these values and no
others.  A document with a field that stands twice is not read; here an element of others
counts, too, if it has the name of a field. -/
theorem ofBody_of_fields {root : String} (hroot : Markup.plainName root = true)
    {children : List (Child layout.Value)}
    (hclear : ∀ child ∈ children, layout.clear child = true) :
    ((∀ child ∈ children, layout.apart child = true) → layout.distinct children = true →
        Envelope.ofBody (Text.Utf8.bytes (layout.document root children)) =
          .ok (ofChosen fun name => (Child.entries children).dlookup name)) ∧
      (layout.distinct children = false →
        ∃ error, Envelope.ofBody (Text.Utf8.bytes (layout.document root children)) =
          .error error) := by
  have hbody := Layout.ofBody_document hroot hclear
  rw [Envelope.ofBody, reader_layout, hbody]
  constructor
  · intro hapart hdistinct
    exact Layout.reader_of_distinct hclear hapart hdistinct
  · intro htwice
    cases hread : layout.reader [] (layout.nodes children) with
    | error error => exact ⟨error, rfl⟩
    | ok envelope =>
      rw [Layout.distinct_of_reader hclear hread] at htwice
      cases htwice

/-- An element of others with something of everything that one may hold, the names of
fields among it. -/
def strange : Element :=
  .full { name := "x:y", attributes := [⟨[' '], ['a'], [], ['\n'], '"', ['/', '>', '\'']⟩] }
    (.comment [.char ']', .named ['l', 't'], .decimal ['6', '5']] ['<', 'a', '>', '-', ' ']
      (.instruction [] ['p', ' ', '<', 'q']
        (.cdata [.hexadecimal ['1', 'F', '6', '0', '0']] ['<', '/', 'x', ':', 'y', '>']
          (.element [] { name := "Event" } (.stop [.char '>']) []
            (.hollow [] { name := "MsgType", trail := [' '] } (.stop []))))))
    ['\t']

/-- Fields in an order of their own, with a string that would end its section, the least
number of its kind and two names that differ in the case of one letter. -/
theorem ofBody_of_fields_strange :
    let children : List (Child layout.Value) :=
      [.field ⟨.sendPicsInfo, [⟨.picList, ["b", "", "a"]⟩, ⟨.count, (3 : UInt32)⟩]⟩,
        .field ⟨.jobId, (7 : Int64)⟩,
        .foreign strange,
        .field ⟨.content, " ]]></Content>&lt; "⟩,
        .field ⟨.msgId, (-9223372036854775808 : Int64)⟩]
    (∀ child ∈ children, layout.clear child = true) ∧
      (∀ child ∈ children, layout.apart child = true) ∧
      layout.distinct children = true ∧
      Envelope.ofBody (Text.Utf8.bytes (layout.document "xml" children)) =
        .ok { content := some " ]]></Content>&lt; "
              msgId := some (-9223372036854775808)
              jobId := some 7
              sendPicsInfo := some { count := 3, md5Sums := ["b", "", "a"] } } ∧
      layout.distinct (children ++ children) = false ∧
      ∃ error, Envelope.ofBody
        (Text.Utf8.bytes (layout.document "xml" (children ++ children))) = .error error := by
  intro children
  have hclear : ∀ child ∈ children, layout.clear child = true := by decide +kernel
  have hapart : ∀ child ∈ children, layout.apart child = true := by decide +kernel
  have hdistinct : layout.distinct children = true := by decide +kernel
  have htwice : layout.distinct (children ++ children) = false := by decide +kernel
  have hclears : ∀ child ∈ children ++ children, layout.clear child = true := by
    intro child hchild
    rw [List.mem_append, or_self] at hchild
    exact hclear child hchild
  exact ⟨hclear, hapart, hdistinct, (ofBody_of_fields (by decide) hclear).1 hapart hdistinct,
    htwice, (ofBody_of_fields (by decide) hclears).2 htwice⟩

/-- An instruction that holds the character that its end mark ends with. -/
def longInstruction : Element :=
  .full { name := "u" } (.instruction [] ['p', ' ', 'a', '>', 'b'] (.stop [])) []

/-- A reference with more digits than it needs. -/
def longReference : Element :=
  .full { name := "u" } (.stop [.decimal ['0', '0', '0', '0', '0', '0', '6', '5']]) []

theorem ofBody_longInstruction :
    Envelope.ofBody (Text.Utf8.bytes (layout.document "xml" [.foreign longInstruction])) =
      .error .malformed := by
  have hdocument : layout.document "xml" [.foreign longInstruction] =
      "<xml><u><?p a>b?></u></xml>" := by
    decide +kernel
  have hscan : Markup.Token.scan "<xml><u><?p a>b?></u></xml>" =
      [.start "xml" [], .start "u" [], .broken] := by
    decide +kernel
  have hroot : Node.root? "<xml><u><?p a>b?></u></xml>" =
      some (.element "xml" [] [.element "u" [] [.fault]]) := by
    rw [Node.root?, hscan]
    rfl
  rw [hdocument, Envelope.ofBody, Markup.Record.ofBody_of_root? hroot]
  rfl

theorem ofBody_longReference :
    Envelope.ofBody (Text.Utf8.bytes (layout.document "xml" [.foreign longReference])) =
      .error .malformed := by
  have hdocument : layout.document "xml" [.foreign longReference] =
      "<xml><u>&#00000065;</u></xml>" := by
    decide +kernel
  have hscan : Markup.Token.scan "<xml><u>&#00000065;</u></xml>" =
      [.start "xml" [], .start "u" [], .text "&#00000065;".toList, .stop "u", .stop "xml"] := by
    decide +kernel
  have hroot : Node.root? "<xml><u>&#00000065;</u></xml>" =
      some (.element "xml" [] [.element "u" [] [.text [.plain "&#00000065;".toList]]]) := by
    rw [Node.root?, hscan]
    rfl
  rw [hdocument, Envelope.ofBody, Markup.Record.ofBody_of_root? hroot]
  rfl

/-- An element of others can be well formed and yet spoil the document, be it for an
instruction or for a reference. -/
theorem wellFormed_elements_spoil_documents :
    (¬∀ (root : String) (children : List (Child layout.Value)), Markup.plainName root = true →
      (∀ element, .foreign element ∈ children →
        element.wellFormed = true ∧ layout.unknown element = true) →
      layout.distinct children = true →
      Envelope.ofBody (Text.Utf8.bytes (layout.document root children)) =
        .ok (ofChosen fun name => (Child.entries children).dlookup name)) ∧
      longReference.wellFormed = true ∧ layout.unknown longReference = true ∧
      Envelope.ofBody (Text.Utf8.bytes (layout.document "xml" [.foreign longReference])) =
        .error .malformed := by
  refine ⟨?_, by decide +kernel, by decide +kernel, ofBody_longReference⟩
  intro h
  have hforeign : ∀ element,
      .foreign element ∈ ([.foreign longInstruction] : List (Child layout.Value)) →
      element.wellFormed = true ∧ layout.unknown element = true := by
    simp only [List.mem_singleton, Child.foreign.injEq, forall_eq]
    decide +kernel
  have hread := h "xml" [.foreign longInstruction] (by decide) hforeign (by decide +kernel)
  rw [ofBody_longInstruction] at hread
  cases hread

end Envelope

end CallbackGate
