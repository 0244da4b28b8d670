import CallbackGate.Markup.Draft
import CallbackGate.Message.Envelope
import CallbackGate.Text.Utf8

/-!
# Replies

What a handler answers to a message, and the document that carries it.  The
sender of the message becomes the recipient of the reply and the other way
round.  The empty reply has no document.
-/

namespace CallbackGate

open Markup (Draft)

/-- One article of a news reply. -/
structure Article where
  title : String := ""
  description : String := ""
  picUrl : String := ""
  url : String := ""
  deriving DecidableEq, Repr

/-- The answer to a message. -/
inductive Reply
  /-- The message is accepted and nothing is answered. -/
  | empty
  | text (content : String)
  | image (mediaId : String)
  | voice (mediaId : String)
  | video (mediaId : String) (title description : Option String)
  | music (title description musicUrl hqMusicUrl : Option String)
      (thumbMediaId : String)
  | news (articles : List Article)
  /-- The conversation goes to customer service, perhaps to one agent. -/
  | transferCustomerService (kfAccount : Option String)
  deriving DecidableEq, Repr

namespace Reply

/-- The greatest number of articles that a news reply carries. -/
def maxArticles : Nat := 8

/-- The reply is the empty one. -/
def isEmpty (reply : Reply) : Bool := reply == .empty

/-- The type tag of a reply, if it has a document. -/
def msgType? : Reply → Option String
  | .empty => none
  | .text _ => some "text"
  | .image _ => some "image"
  | .voice _ => some "voice"
  | .video .. => some "video"
  | .music .. => some "music"
  | .news _ => some "news"
  | .transferCustomerService _ => some "transfer_customer_service"

/-- An element for a string, if there is one. -/
def optional (name : String) (value : Option String) : List Draft :=
  value.toList.map (Draft.cdata name)

/-- The element of an article. -/
def articleDraft (article : Article) : Draft :=
  .group "item"
    [.cdata "Title" article.title,
      .cdata "Description" article.description,
      .cdata "PicUrl" article.picUrl,
      .cdata "Url" article.url]

/-- The elements that tell what is answered. -/
def content : Reply → List Draft
  | .empty => []
  | .text content => [.cdata "Content" content]
  | .image mediaId => [.group "Image" [.cdata "MediaId" mediaId]]
  | .voice mediaId => [.group "Voice" [.cdata "MediaId" mediaId]]
  | .video mediaId title description =>
    [.group "Video" <|
      [.cdata "MediaId" mediaId] ++ optional "Title" title ++
        optional "Description" description]
  | .music title description musicUrl hqMusicUrl thumbMediaId =>
    [.group "Music" <|
      optional "Title" title ++ optional "Description" description ++
        optional "MusicUrl" musicUrl ++ optional "HQMusicUrl" hqMusicUrl ++
        [.cdata "ThumbMediaId" thumbMediaId]]
  | .news articles =>
    let kept := articles.take maxArticles
    [.text "ArticleCount" (toString kept.length),
      .group "Articles" (kept.map articleDraft)]
  | .transferCustomerService kfAccount =>
    kfAccount.toList.map fun account =>
      .group "TransInfo" [.cdata "KfAccount" account]

/-- The elements of the document that answers an envelope at a given time. -/
def drafts? (reply : Reply) (inbound : Envelope) (createTime : Int64) :
    Option (List Draft) :=
  reply.msgType?.map fun tag =>
    [.cdata "ToUserName" inbound.fromUserName,
      .cdata "FromUserName" inbound.toUserName,
      .text "CreateTime" (toString createTime.toInt),
      .cdata "MsgType" tag] ++ reply.content

/-- The document that answers an envelope at a given time. -/
def document? (reply : Reply) (inbound : Envelope) (createTime : Int64) :
    Option String :=
  (reply.drafts? inbound createTime).map Draft.document

/-- The body of the document that answers an envelope at a given time. -/
def encode? (reply : Reply) (inbound : Envelope) (createTime : Int64) :
    Option (List UInt8) :=
  (reply.document? inbound createTime).map Text.Utf8.bytes

end Reply

end CallbackGate
