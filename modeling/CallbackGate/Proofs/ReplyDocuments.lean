import CallbackGate.Message.Reply
import CallbackGate.Proofs.Numerals

/-!
# Reply documents are read back

Nothing that a reply holds can change the shape of its document.  Whatever the
strings are, the document is one root element with the elements of the reply in
their order, and every string in it is read back character for character.

There are four groups.

* Outlines.  An outline names elements and gives their strings; `Shows` says
  that a part of the tree reads as an outline.
* Written elements.  `shows_outline` reads each of them back, and
  `readChildren_skipAll` passes over those that a record has no field for.
* Replies.  `Reply.outline` is what a recipient is to see.
* Envelopes.  A reply document is itself a message that can be read.
-/

namespace CallbackGate.Markup

/-! ## Outlines -/

/-- Elements by name: each holds a string, or other elements. -/
inductive Outline
  | leaf (name value : String)
  | branch (name : String) (parts : List Outline)

mutual

/-- A part of the tree reads as an outline. -/
inductive Shows : Node → Outline → Prop
  | leaf {name value : String} {content : List Node}
    (h : Record.contentText content = .ok value) :
    Shows (.element name [] content) (.leaf name value)
  | branch {name : String} {content : List Node} {parts : List Outline}
    (h : ShowsAll content parts) :
    Shows (.element name [] content) (.branch name parts)

/-- Parts of the tree read as outlines, one by one and with nothing between
them. -/
inductive ShowsAll : List Node → List Outline → Prop
  | nil : ShowsAll [] []
  | cons {node : Node} {part : Outline} {nodes : List Node} {parts : List Outline}
    (h : Shows node part) (hrest : ShowsAll nodes parts) :
    ShowsAll (node :: nodes) (part :: parts)

end

mutual

/-- The events that make up a part of the tree. -/
def Node.events : Node → List Event
  | .text run => [.text run]
  | .element name attributes content =>
    .start name attributes :: Node.allEvents content ++ [.stop name]
  | .fault => [.fault]

/-- The events that make up parts of the tree. -/
def Node.allEvents : List Node → List Event
  | [] => []
  | node :: rest => node.events ++ Node.allEvents rest

end

/-! ## Written elements -/

namespace Draft

mutual

/-- What is to be read back from an element. -/
def outline : Draft → Outline
  | cdata name value => .leaf name value
  | text name value => .leaf name (String.ofList (stripped value))
  | group name content => .branch name (outlines content)

/-- What is to be read back from elements. -/
def outlines : List Draft → List Outline
  | [] => []
  | draft :: rest => draft.outline :: outlines rest

end

mutual

/-- A written element reads as its outline. -/
theorem shows_outline : ∀ draft : Draft, Shows draft.node draft.outline
  | .cdata _ value => .leaf (Record.contentText_sectionRun value)
  | .text _ value => .leaf (Record.contentText_textRuns value)
  | .group _ content => .branch (showsAll_outlines content)

/-- Written elements read as their outlines. -/
theorem showsAll_outlines : ∀ drafts : List Draft, ShowsAll (nodes drafts) (outlines drafts)
  | [] => .nil
  | draft :: drafts => .cons (shows_outline draft) (showsAll_outlines drafts)

end

mutual

/-- The tree of a written element is made up of its events. -/
theorem events_node : ∀ draft : Draft, draft.node.events = draft.events
  | .cdata name value => rfl
  | .text name value => by
    rw [node, events, Node.events, textRuns]
    split_ifs with hempty
    · rfl
    · rfl
  | .group name content => by
    rw [node, events, Node.events, allEvents_nodes content]

theorem allEvents_nodes : ∀ drafts : List Draft,
    Node.allEvents (nodes drafts) = allEvents drafts
  | [] => rfl
  | draft :: drafts => by
    rw [nodes, allEvents, Node.allEvents, events_node draft, allEvents_nodes drafts]

end

/-- The events of a written document are those of its root, and no others. -/
theorem ofTokens_document {drafts : List Draft} (h : allWellNamed drafts = true) :
    Event.ofTokens (Token.scan (document drafts)) =
      (Node.element "xml" [] (nodes drafts)).events := by
  have htokens := Event.ofTokensFrom_allTokens drafts [.stop "xml"]
  rw [Token.scan_document h, Event.ofTokens, List.cons_append, Event.ofTokensFrom, htokens,
    Node.events, allEvents_nodes]
  rfl

/-! ### Lists of elements -/

@[simp] theorem outlines_append (left right : List Draft) :
    outlines (left ++ right) = outlines left ++ outlines right := by
  induction left with
  | nil => rfl
  | cons draft left ih => rw [List.cons_append, outlines, outlines, ih, List.cons_append]

@[simp] theorem outlines_map {α : Type} (draft : α → Draft) (items : List α) :
    outlines (items.map draft) = items.map fun item => (draft item).outline := by
  induction items with
  | nil => rfl
  | cons item items ih => rw [List.map_cons, outlines, ih, List.map_cons]

@[simp] theorem allWellNamed_append (left right : List Draft) :
    allWellNamed (left ++ right) = (allWellNamed left && allWellNamed right) := by
  induction left with
  | nil => rfl
  | cons draft left ih =>
    rw [List.cons_append, allWellNamed, allWellNamed, ih, Bool.and_assoc]

theorem allWellNamed_map {α : Type} (draft : α → Draft)
    (h : ∀ item, (draft item).wellNamed = true) (items : List α) :
    allWellNamed (items.map draft) = true := by
  induction items with
  | nil => rfl
  | cons item items ih => rw [List.map_cons, allWellNamed, h, ih, Bool.and_self]

theorem nodes_eq_map (drafts : List Draft) : nodes drafts = drafts.map node := by
  induction drafts with
  | nil => rfl
  | cons draft drafts ih => rw [nodes, ih, List.map_cons]

/-! ### Elements that are passed over -/

/-- The name of an element. -/
def name : Draft → String
  | cdata name _ | text name _ | group name _ => name

/-- What is between the tags of an element. -/
def inside : Draft → List Node
  | cdata _ value => [.text (sectionRun value)]
  | text _ value => (textRuns value).map .text
  | group _ content => nodes content

theorem node_eq (draft : Draft) : draft.node = .element draft.name [] draft.inside := by
  cases draft with
  | cdata name value => rfl
  | text name value => rfl
  | group name content => rfl

mutual

/-- A written element can be read to its end. -/
theorem intact_node : ∀ draft : Draft, draft.node.intact = true
  | .cdata name value => rfl
  | .text name value => by
    rw [node, textRuns]
    split_ifs with hempty
    · rfl
    · rfl
  | .group name content => by
    rw [node, Node.intact]
    exact allIntact_nodes content

theorem allIntact_nodes : ∀ drafts : List Draft, Node.allIntact (nodes drafts) = true
  | [] => rfl
  | draft :: drafts => by
    rw [nodes, Node.allIntact, intact_node draft, allIntact_nodes drafts, Bool.and_self]

end

theorem canSkip_inside (draft : Draft) : Record.canSkip draft.inside = true := by
  have hintact : Node.allIntact draft.inside = true := by
    have h := intact_node draft
    rw [node_eq, Node.intact] at h
    exact h
  unfold Record.canSkip
  rw [hintact, Bool.true_and]
  cases draft with
  | cdata name value =>
    show (Run.value? (sectionRun value)).isSome = true
    rw [Run.value?, sectionRun, Record.mapM_literal]
    rfl
  | text name value =>
    rw [inside, textRuns]
    split_ifs with hempty
    · rfl
    · show (Run.value? [.plain (escape (stripped value))]).isSome = true
      rw [Run.value?, List.mapM_cons, Piece.value?, unescape_escape]
      rfl
  | group name content =>
    cases content with
    | nil => rfl
    | cons draft content =>
      rw [inside, nodes, node_eq]

end Draft

namespace Record

variable {α : Type} {fields : List (Field α)} {seen : List String} {record : α}
  {rest : List Node}

/-- A written element that no field is for is passed over. -/
theorem readChildren_skip {draft : Draft}
    (h : fields.find? (·.name == localName draft.name) = none) :
    readChildren fields seen record (draft.node :: rest) =
      readChildren fields seen record rest := by
  rw [draft.node_eq, readChildren, h, draft.canSkip_inside]
  rfl

/-- So are several of them. -/
theorem readChildren_skipAll {drafts : List Draft}
    (h : ∀ draft ∈ drafts, fields.find? (·.name == localName draft.name) = none) :
    readChildren fields seen record (Draft.nodes drafts) = .ok (seen, record) := by
  induction drafts with
  | nil => rfl
  | cons draft drafts ih =>
    rw [Draft.nodes, readChildren_skip (h draft (List.mem_cons_self ..))]
    exact ih fun other hother => h other (List.mem_cons_of_mem _ hother)

/-- A child that holds a numeral sets its field. -/
theorem readChildren_numeral {β : Type} {name : String} {attributes : List Char}
    {content : List Node} {n : Int} {parse : List Char → Except Text.NumeralFault β}
    {set : β → α → α} {number : β}
    (hfind : fields.find? (·.name == localName name) = some (.numeral name parse set))
    (hseen : seen.contains name = false) (hcontent : contentText content = .ok (toString n))
    (hparse : parse (toString n).toList = .ok number) :
    readChildren fields seen record (.element name attributes content :: rest) =
      readChildren fields (name :: seen) (set number record) rest :=
  readChildren_field hfind hseen (Field.read_numeral set hcontent hparse)

end Record

end CallbackGate.Markup

namespace CallbackGate

open Markup (Draft Event Node Outline Shows Token)
open Markup.Record (contentText_sectionRun contentText_textRuns readChildren_text
  readChildren_numeral readChildren_skipAll)

/-! ## Replies -/

/-- What a recipient is to see of an article. -/
def Article.outline (article : Article) : Outline :=
  .branch "item"
    [.leaf "Title" article.title,
      .leaf "Description" article.description,
      .leaf "PicUrl" article.picUrl,
      .leaf "Url" article.url]

namespace Reply

/-- An element with a string, if there is one. -/
def optionalLeaf (name : String) (value : Option String) : List Outline :=
  value.toList.map (Outline.leaf name)

/-- What a recipient is to see of a reply behind the four elements that every
reply document begins with. -/
def parts : Reply → List Outline
  | empty => []
  | text content => [.leaf "Content" content]
  | image mediaId => [.branch "Image" [.leaf "MediaId" mediaId]]
  | voice mediaId => [.branch "Voice" [.leaf "MediaId" mediaId]]
  | video mediaId title description =>
    [.branch "Video" <|
      .leaf "MediaId" mediaId :: optionalLeaf "Title" title ++
        optionalLeaf "Description" description]
  | music title description musicUrl hqMusicUrl thumbMediaId =>
    [.branch "Music" <|
      optionalLeaf "Title" title ++ optionalLeaf "Description" description ++
        optionalLeaf "MusicUrl" musicUrl ++ optionalLeaf "HQMusicUrl" hqMusicUrl ++
        [.leaf "ThumbMediaId" thumbMediaId]]
  | news articles =>
    [.leaf "ArticleCount" (toString (min articles.length 8)),
      .branch "Articles" ((articles.take (min articles.length 8)).map Article.outline)]
  | transferCustomerService none => []
  | transferCustomerService (some account) =>
    [.branch "TransInfo" [.leaf "KfAccount" account]]

/-- What a recipient is to see of the document of a reply with a type tag. -/
def outline (reply : Reply) (inbound : Envelope) (createTime : Int64) (tag : String) :
    Outline :=
  .branch "xml" <|
    [.leaf "ToUserName" inbound.fromUserName,
      .leaf "FromUserName" inbound.toUserName,
      .leaf "CreateTime" (toString createTime.toInt),
      .leaf "MsgType" tag] ++ reply.parts

/-- The content that a reply has as a message. -/
def content? : Reply → Option String
  | text content => some content
  | _ => none

theorem outlines_optional (name : String) (value : Option String) :
    Draft.outlines (optional name value) = optionalLeaf name value := by
  cases value with
  | none => rfl
  | some value => rfl

theorem outlines_content (reply : Reply) : Draft.outlines reply.content = reply.parts := by
  cases reply with
  | empty => rfl
  | text content => rfl
  | image mediaId => rfl
  | voice mediaId => rfl
  | video mediaId title description =>
    simp [content, parts, Draft.outlines, Draft.outline, outlines_optional]
  | music title description musicUrl hqMusicUrl thumbMediaId =>
    simp [content, parts, Draft.outlines, Draft.outline, outlines_optional]
  | news articles =>
    have hlength : (articles.take maxArticles).length = min articles.length 8 := by
      rw [List.length_take, maxArticles, Nat.min_comm]
    have hcount : Draft.stripped (toString (articles.take maxArticles).length) =
        (toString (articles.take maxArticles).length).toList :=
      Draft.stripped_toString (articles.take maxArticles).length
    have htake : articles.take (min articles.length 8) = articles.take maxArticles := by
      rw [List.take_eq_take_iff, maxArticles]
      omega
    rw [content, Draft.outlines, Draft.outline, hcount, String.ofList_toList, hlength, parts, htake]
    show _ :: [Outline.branch _ (Draft.outlines _)] = _
    rw [Draft.outlines_map]
    rfl
  | transferCustomerService kfAccount =>
    cases kfAccount with
    | none => rfl
    | some account => rfl

theorem allWellNamed_optional {name : String} (h : Markup.plainName name = true)
    (value : Option String) : Draft.allWellNamed (optional name value) = true :=
  Draft.allWellNamed_map (.cdata name) (fun _ => h) value.toList

/-- Every name in a reply document is read as it is written. -/
theorem allWellNamed_content (reply : Reply) : Draft.allWellNamed reply.content = true := by
  have htitle : Markup.plainName "Title" = true := by decide
  have hdescription : Markup.plainName "Description" = true := by decide
  have hmusicUrl : Markup.plainName "MusicUrl" = true := by decide
  have hhqMusicUrl : Markup.plainName "HQMusicUrl" = true := by decide
  cases reply with
  | empty => rfl
  | text content => rfl
  | image mediaId => rfl
  | voice mediaId => rfl
  | video mediaId title description =>
    show (Draft.allWellNamed _ && true) = true
    rw [Draft.allWellNamed_append, Draft.allWellNamed_append, allWellNamed_optional htitle,
      allWellNamed_optional hdescription]
    rfl
  | music title description musicUrl hqMusicUrl thumbMediaId =>
    show (Draft.allWellNamed _ && true) = true
    rw [Draft.allWellNamed_append, Draft.allWellNamed_append, Draft.allWellNamed_append,
      Draft.allWellNamed_append, allWellNamed_optional htitle,
      allWellNamed_optional hdescription, allWellNamed_optional hmusicUrl,
      allWellNamed_optional hhqMusicUrl]
    rfl
  | news articles =>
    show (Draft.allWellNamed ((articles.take maxArticles).map articleDraft) && true) = true
    rw [Draft.allWellNamed_map articleDraft (fun _ => rfl), Bool.true_and]
  | transferCustomerService kfAccount =>
    cases kfAccount with
    | none => rfl
    | some account => rfl

variable (reply : Reply) (inbound : Envelope) (createTime : Int64)

theorem allWellNamed_drafts {drafts : List Draft}
    (h : reply.drafts? inbound createTime = some drafts) : Draft.allWellNamed drafts = true := by
  obtain ⟨tag, -, rfl⟩ := Option.map_eq_some_iff.mp h
  rw [Draft.allWellNamed_append, reply.allWellNamed_content]
  rfl

/-- The elements of a reply document are written for what a recipient is to
see. -/
theorem outlines_drafts {drafts : List Draft} (h : reply.drafts? inbound createTime = some drafts) :
    ∃ tag, reply.msgType? = some tag ∧
      Outline.branch "xml" (Draft.outlines drafts) = reply.outline inbound createTime tag := by
  obtain ⟨tag, htag, rfl⟩ := Option.map_eq_some_iff.mp h
  refine ⟨tag, htag, ?_⟩
  rw [Draft.outlines_append, reply.outlines_content, outline]
  simp only [Draft.outlines, Draft.outline, Draft.stripped_toString, String.ofList_toList]

/-! ## Envelopes -/

/-- The elements of replies that no field of a message is for. -/
def foreignNames : List String :=
  ["Image", "Voice", "Video", "Music", "ArticleCount", "Articles", "TransInfo"]

theorem find?_foreignNames {name : String} (h : name ∈ foreignNames) :
    Envelope.fields.find? (·.name == Markup.localName name) = none := by
  simp only [foreignNames, List.mem_cons, List.not_mem_nil, or_false] at h
  rcases h with rfl | rfl | rfl | rfl | rfl | rfl | rfl
  · rfl
  · rfl
  · rfl
  · rfl
  · rfl
  · rfl
  · rfl

/-- A reply is either a text or has no elements that messages have. -/
theorem content_cases :
    (∃ content, reply = .text content) ∨
      (reply.content? = none ∧ ∀ draft ∈ reply.content, draft.name ∈ foreignNames) := by
  cases reply with
  | text content => exact Or.inl ⟨content, rfl⟩
  | empty => exact Or.inr ⟨rfl, by simp [content]⟩
  | image mediaId => exact Or.inr ⟨rfl, by simp [content, Draft.name, foreignNames]⟩
  | voice mediaId => exact Or.inr ⟨rfl, by simp [content, Draft.name, foreignNames]⟩
  | video mediaId title description =>
    exact Or.inr ⟨rfl, by simp [content, Draft.name, foreignNames]⟩
  | music title description musicUrl hqMusicUrl thumbMediaId =>
    exact Or.inr ⟨rfl, by simp [content, Draft.name, foreignNames]⟩
  | news articles => exact Or.inr ⟨rfl, by simp [content, Draft.name, foreignNames]⟩
  | transferCustomerService kfAccount =>
    exact Or.inr ⟨rfl, by simp [content, Draft.name, foreignNames]⟩

/-- Of what a reply adds to its first four elements, a message has the content
of a text. -/
theorem readChildren_content (seen : List String) (record : Envelope)
    (hseen : seen.contains "Content" = false) (hrecord : record.content = none) :
    ∃ after,
      Markup.Record.readChildren Envelope.fields seen record (Draft.nodes reply.content) =
        .ok (after, { record with content := reply.content? }) := by
  rcases reply.content_cases with ⟨content, rfl⟩ | ⟨hnone, hforeign⟩
  · refine ⟨"Content" :: seen, ?_⟩
    show Markup.Record.readChildren _ _ _
      [.element "Content" [] [.text (Draft.sectionRun content)]] = _
    rw [readChildren_text rfl hseen (contentText_sectionRun content)]
    rfl
  · refine ⟨seen, ?_⟩
    rw [readChildren_skipAll fun draft hdraft => find?_foreignNames (hforeign draft hdraft),
      hnone, ← hrecord]

/-- The document of a reply is itself a message, with sender and recipient
exchanged. -/
theorem ofBody_drafts {tag : String} (htag : reply.msgType? = some tag) {drafts : List Draft}
    (h : reply.drafts? inbound createTime = some drafts) :
    Envelope.ofBody (Text.Utf8.bytes (Draft.document drafts)) =
      .ok { toUserName := inbound.fromUserName
            fromUserName := inbound.toUserName
            createTime := createTime
            msgType := tag
            content := reply.content? } := by
  have hnames := reply.allWellNamed_drafts inbound createTime h
  rw [drafts?, htag, Option.map_some, Option.some.injEq] at h
  obtain ⟨after, hcontent⟩ := reply.readChildren_content
    ["MsgType", "CreateTime", "FromUserName", "ToUserName"]
    { toUserName := inbound.fromUserName
      fromUserName := inbound.toUserName
      createTime := createTime
      msgType := tag } rfl rfl
  have htime := Markup.Record.contentText_numeral createTime.toInt
  rw [Envelope.ofBody, Markup.Record.ofBody_document hnames, Envelope.reader]
  apply Markup.Record.read_of_readChildren
  · rw [← h]
    show Markup.Record.readChildren _ _ _
      (.element "ToUserName" [] [.text (Draft.sectionRun inbound.fromUserName)] ::
        .element "FromUserName" [] [.text (Draft.sectionRun inbound.toUserName)] ::
        .element "CreateTime" [] ((Draft.textRuns (toString createTime.toInt)).map .text) ::
        .element "MsgType" [] [.text (Draft.sectionRun tag)] ::
        Draft.nodes reply.content) = _
    rw [readChildren_text rfl rfl (contentText_sectionRun inbound.fromUserName),
      readChildren_text rfl rfl (contentText_sectionRun inbound.toUserName),
      readChildren_numeral rfl rfl htime (Numeral.int64_toString createTime),
      readChildren_text rfl rfl (contentText_sectionRun tag)]
    exact hcontent
  · rfl

/-- The document of a reply that is not empty is one root element, with nothing
before or after it, in which a recipient sees the reply and nothing else: each
element in its place and each string as it was given.  Read as a message, it
comes from the account that the reply answers for. -/
theorem document_reads_back (hreply : reply ≠ .empty) :
    ∃ tag document root, reply.msgType? = some tag ∧
      reply.encode? inbound createTime = some (Text.Utf8.bytes document) ∧
      Node.root? document = some root ∧
      Event.ofTokens (Token.scan document) = root.events ∧
      Shows root (reply.outline inbound createTime tag) ∧
      Envelope.ofBody (Text.Utf8.bytes document) =
        .ok { toUserName := inbound.fromUserName
              fromUserName := inbound.toUserName
              createTime := createTime
              msgType := tag
              content := reply.content? } := by
  cases htag : reply.msgType? with
  | none =>
    cases reply with
    | empty => exact absurd rfl hreply
    | _ => cases htag
  | some tag =>
    obtain ⟨drafts, hdrafts⟩ : ∃ drafts, reply.drafts? inbound createTime = some drafts :=
      ⟨_, by rw [drafts?, htag, Option.map_some]⟩
    have hnames := reply.allWellNamed_drafts inbound createTime hdrafts
    obtain ⟨found, hfound, houtline⟩ := reply.outlines_drafts inbound createTime hdrafts
    rw [htag, Option.some.injEq] at hfound
    rw [← hfound] at houtline
    refine ⟨tag, Draft.document drafts, .element "xml" [] (Draft.nodes drafts), rfl, ?_,
      Node.root?_document hnames, Draft.ofTokens_document hnames, ?_,
      reply.ofBody_drafts inbound createTime htag hdrafts⟩
    · rw [encode?, document?, hdrafts, Option.map_some, Option.map_some]
    · rw [← houtline]
      exact .branch (Draft.showsAll_outlines drafts)

/-- Strings that end sections, close elements and open others, and one that is
empty. -/
theorem document_reads_back_hostile :
    let reply : Reply := .video " ]]]]>> " (some "") (some "]]></Video></xml><xml>&lt;]]")
    let inbound : Envelope := { toUserName := "gh", fromUserName := "<a>]]>" }
    reply ≠ .empty ∧
      ∃ document root, reply.encode? inbound (-1) = some (Text.Utf8.bytes document) ∧
        Node.root? document = some root ∧
        Event.ofTokens (Token.scan document) = root.events ∧
        Shows root
          (.branch "xml"
            [.leaf "ToUserName" "<a>]]>",
              .leaf "FromUserName" "gh",
              .leaf "CreateTime" "-1",
              .leaf "MsgType" "video",
              .branch "Video"
                [.leaf "MediaId" " ]]]]>> ",
                  .leaf "Title" "",
                  .leaf "Description" "]]></Video></xml><xml>&lt;]]"]]) ∧
        Envelope.ofBody (Text.Utf8.bytes document) =
          .ok { toUserName := "<a>]]>"
                fromUserName := "gh"
                createTime := -1
                msgType := "video" } := by
  intro reply inbound
  have hreply : reply ≠ .empty := nofun
  obtain ⟨tag, document, root, htag, hencode, hroot, hevents, hshows, henvelope⟩ :=
    document_reads_back reply inbound (-1) hreply
  cases htag
  exact ⟨hreply, document, root, hencode, hroot, hevents, hshows, henvelope⟩

end Reply

end CallbackGate
