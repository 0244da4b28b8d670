import CallbackGate.Markup.Record
import CallbackGate.Message.Envelope

/-!
# Reading envelopes

The elements of the document that an envelope is read from.  Every numeral of
the envelope may stand blank, which counts as absent, but for the count of
pictures.
-/

namespace CallbackGate

open Markup (Reader Record.read BodyError)

/-! ## Kinds of numerals -/

namespace Numeral

/-- Read a whole number of 8 bits. -/
def uint8 (text : List Char) : Except Text.NumeralFault UInt8 :=
  ((Text.Bounds.unsigned 8).parse text).map fun n => UInt8.ofNat n.toNat

/-- Read a whole number of 16 bits. -/
def uint16 (text : List Char) : Except Text.NumeralFault UInt16 :=
  ((Text.Bounds.unsigned 16).parse text).map fun n => UInt16.ofNat n.toNat

/-- Read a whole number of 32 bits. -/
def uint32 (text : List Char) : Except Text.NumeralFault UInt32 :=
  ((Text.Bounds.unsigned 32).parse text).map fun n => UInt32.ofNat n.toNat

/-- Read a whole number of 64 bits. -/
def uint64 (text : List Char) : Except Text.NumeralFault UInt64 :=
  ((Text.Bounds.unsigned 64).parse text).map fun n => UInt64.ofNat n.toNat

/-- Read a signed number of 64 bits. -/
def int64 (text : List Char) : Except Text.NumeralFault Int64 :=
  ((Text.Bounds.signed 64).parse text).map Int64.ofInt

end Numeral

/-! ## Nested records -/

/-- Read what a scan found. -/
def ScanCodeInfo.reader : Reader ScanCodeInfo :=
  Record.read
    [.text "ScanType" fun v r => { r with scanType := v },
      .text "ScanResult" fun v r => { r with scanResult := v }] [] {}

/-- Read the MD5 sum of one picture. -/
def SendPicsInfo.itemReader : Reader String :=
  Record.read [.text "PicMd5Sum" fun v _ => v] [] ""

/-- Read the pictures that were sent. -/
def SendPicsInfo.reader : Reader SendPicsInfo :=
  Record.read
    [.bareNumeral "Count" Numeral.uint32 fun v r => { r with count := v },
      .record "PicList" (Markup.Record.items "item" itemReader)
        fun v r => { r with md5Sums := v }] [] {}

/-- Read the place that was picked. -/
def SendLocationInfo.reader : Reader SendLocationInfo :=
  Record.read
    [.numeral "Location_X" Text.Binary64.parse
        fun v r => { r with locationX := some v },
      .numeral "Location_Y" Text.Binary64.parse
        fun v r => { r with locationY := some v },
      .numeral "Scale" Text.Binary64.parse
        fun v r => { r with scale := some v },
      .text "Label" fun v r => { r with label := some v },
      .text "Poiname" fun v r => { r with poiname := some v }] [] {}

/-! ## Envelopes -/

namespace Envelope

/-- The fields of an envelope, in the order of the record. -/
def fields : List (Markup.Field Envelope) :=
  [.text "ToUserName" fun v e => { e with toUserName := v },
    .text "FromUserName" fun v e => { e with fromUserName := v },
    .numeral "CreateTime" Numeral.int64 fun v e => { e with createTime := v },
    .text "MsgType" fun v e => { e with msgType := v },
    .text "Event" fun v e => { e with event := some v },
    .numeral "MsgId" Numeral.int64 fun v e => { e with msgId := some v },
    .text "Content" fun v e => { e with content := some v },
    .text "PicUrl" fun v e => { e with picUrl := some v },
    .text "MediaId" fun v e => { e with mediaId := some v },
    .text "Format" fun v e => { e with format := some v },
    .text "Recognition" fun v e => { e with recognition := some v },
    .text "ThumbMediaId" fun v e => { e with thumbMediaId := some v },
    .numeral "Location_X" Text.Binary64.parse
      fun v e => { e with locationX := some v },
    .numeral "Location_Y" Text.Binary64.parse
      fun v e => { e with locationY := some v },
    .numeral "Scale" Text.Binary64.parse fun v e => { e with scale := some v },
    .text "Label" fun v e => { e with label := some v },
    .text "Title" fun v e => { e with title := some v },
    .text "Description" fun v e => { e with description := some v },
    .text "Url" fun v e => { e with url := some v },
    .text "FileKey" fun v e => { e with fileKey := some v },
    .text "FileMd5" fun v e => { e with fileMd5 := some v },
    .numeral "FileTotalLen" Numeral.uint64
      fun v e => { e with fileTotalLen := some v },
    .text "EventKey" fun v e => { e with eventKey := some v },
    .text "Ticket" fun v e => { e with ticket := some v },
    .numeral "Latitude" Text.Binary64.parse
      fun v e => { e with latitude := some v },
    .numeral "Longitude" Text.Binary64.parse
      fun v e => { e with longitude := some v },
    .numeral "Precision" Text.Binary64.parse
      fun v e => { e with precision := some v },
    .text "MenuId" fun v e => { e with menuId := some v },
    .record "ScanCodeInfo" ScanCodeInfo.reader
      fun v e => { e with scanCodeInfo := some v },
    .record "SendPicsInfo" SendPicsInfo.reader
      fun v e => { e with sendPicsInfo := some v },
    .record "SendLocationInfo" SendLocationInfo.reader
      fun v e => { e with sendLocationInfo := some v },
    .numeral "MsgID" Numeral.int64 fun v e => { e with jobId := some v },
    .text "Status" fun v e => { e with status := some v },
    .numeral "TotalCount" Numeral.uint64
      fun v e => { e with totalCount := some v },
    .numeral "FilterCount" Numeral.uint64
      fun v e => { e with filterCount := some v },
    .numeral "SentCount" Numeral.uint64
      fun v e => { e with sentCount := some v },
    .numeral "ErrorCount" Numeral.uint64
      fun v e => { e with errorCount := some v },
    .text "KfAccount" fun v e => { e with kfAccount := some v },
    .text "FromKfAccount" fun v e => { e with fromKfAccount := some v },
    .text "ToKfAccount" fun v e => { e with toKfAccount := some v },
    .text "CardId" fun v e => { e with cardId := some v },
    .text "RefuseReason" fun v e => { e with refuseReason := some v },
    .text "UserCardCode" fun v e => { e with userCardCode := some v },
    .numeral "IsGiveByFriend" Numeral.uint8
      fun v e => { e with isGiveByFriend := some v },
    .text "FriendUserName" fun v e => { e with friendUserName := some v },
    .numeral "OuterId" Numeral.int64 fun v e => { e with outerId := some v },
    .text "OldUserCardCode" fun v e => { e with oldUserCardCode := some v },
    .text "ConsumeSource" fun v e => { e with consumeSource := some v },
    .text "LocationName" fun v e => { e with locationName := some v },
    .text "StaffOpenId" fun v e => { e with staffOpenId := some v },
    .text "FailReason" fun v e => { e with failReason := some v },
    .numeral "ExpiredTime" Numeral.int64
      fun v e => { e with expiredTime := some v }]

/-- Read an envelope.  A field that is not there keeps its default. -/
def reader : Reader Envelope :=
  Record.read fields [] {}

/-- The envelope in the body of a delivery. -/
def ofBody (body : List UInt8) : Except BodyError Envelope :=
  Markup.Record.ofBody reader body

end Envelope

end CallbackGate
