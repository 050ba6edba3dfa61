import CppGram.Backend.Formatting

/-!
# Media

The attachments of C++ `media.hpp` and `types.hpp`, the contents of a message that TDLib knows, and the
conversions of the one into the other. A `double` is only copied, so it is its bits.
-/

namespace CppGram.Backend

/-- The number of a file. -/
abbrev FileId := Int32

/-- The bits of a C++ `double`. -/
abbrev Double := UInt64

/-- C++ `enum class MediaType`. -/
inductive MediaType where
  | None
  | Photo
  | Video
  | Document
  | Audio
  | Voice
  | VideoNote
  | Animation
  | Sticker
  | Poll
  | Location
  | Contact
  | Venue
  | Dice
  deriving DecidableEq, Repr

/-! ## Attachments -/

/-- C++ `struct PhotoSize`. -/
structure PhotoSize where
  fileId : FileId := 0
  fileUniqueId : Text := []
  width : Int32 := 0
  height : Int32 := 0
  fileSize : Int64 := 0
  deriving DecidableEq, Repr

/-- C++ `struct Photo`. -/
structure Photo where
  sizes : List PhotoSize := []
  deriving DecidableEq, Repr

/-- C++ `struct VideoInfo`. -/
structure VideoInfo where
  fileId : FileId := 0
  fileUniqueId : Text := []
  width : Int32 := 0
  height : Int32 := 0
  duration : Int32 := 0
  mimeType : Text := []
  fileName : Text := []
  fileSize : Int64 := 0
  thumbnail : Option PhotoSize := none
  deriving DecidableEq, Repr

/-- C++ `struct DocumentInfo`. -/
structure DocumentInfo where
  fileId : FileId := 0
  fileUniqueId : Text := []
  fileName : Text := []
  mimeType : Text := []
  fileSize : Int64 := 0
  thumbnail : Option PhotoSize := none
  deriving DecidableEq, Repr

/-- C++ `struct AudioInfo`. -/
structure AudioInfo where
  fileId : FileId := 0
  fileUniqueId : Text := []
  duration : Int32 := 0
  title : Text := []
  performer : Text := []
  mimeType : Text := []
  fileSize : Int64 := 0
  thumbnail : Option PhotoSize := none
  deriving DecidableEq, Repr

/-- C++ `struct VoiceNoteInfo`. -/
structure VoiceNoteInfo where
  fileId : FileId := 0
  fileUniqueId : Text := []
  duration : Int32 := 0
  mimeType : Text := []
  fileSize : Int64 := 0
  deriving DecidableEq, Repr

/-- C++ `struct VideoNoteInfo`. -/
structure VideoNoteInfo where
  fileId : FileId := 0
  fileUniqueId : Text := []
  length : Int32 := 0
  duration : Int32 := 0
  fileSize : Int64 := 0
  thumbnail : Option PhotoSize := none
  deriving DecidableEq, Repr

/-- C++ `struct AnimationInfo`. -/
structure AnimationInfo where
  fileId : FileId := 0
  fileUniqueId : Text := []
  width : Int32 := 0
  height : Int32 := 0
  duration : Int32 := 0
  mimeType : Text := []
  fileName : Text := []
  fileSize : Int64 := 0
  thumbnail : Option PhotoSize := none
  deriving DecidableEq, Repr

/-- C++ `struct StickerInfo`. -/
structure StickerInfo where
  fileId : FileId := 0
  fileUniqueId : Text := []
  width : Int32 := 0
  height : Int32 := 0
  emoji : Text := []
  setName : Text := []
  isAnimated : Bool := false
  isVideo : Bool := false
  fileSize : Int64 := 0
  thumbnail : Option PhotoSize := none
  deriving DecidableEq, Repr

/-- C++ `struct PollOption`. -/
structure PollOption where
  text : Text := []
  voterCount : Int32 := 0
  deriving DecidableEq, Repr

/-- C++ `enum class PollType`. -/
inductive PollType where
  | Regular
  | Quiz
  deriving DecidableEq, Repr

/-- C++ `struct Poll`. -/
structure Poll where
  id : Int64 := 0
  question : Text := []
  options : List PollOption := []
  totalVoterCount : Int32 := 0
  isClosed : Bool := false
  isAnonymous : Bool := true
  type : PollType := .Regular
  allowsMultipleAnswers : Bool := false
  correctOptionId : Option Int32 := none
  explanation : Text := []
  deriving DecidableEq, Repr

/-- C++ `struct Location`. -/
structure Location where
  latitude : Double := 0
  longitude : Double := 0
  horizontalAccuracy : Double := 0
  livePeriod : Int32 := 0
  heading : Int32 := 0
  proximityAlertRadius : Int32 := 0
  deriving DecidableEq, Repr

/-- C++ `struct Contact`. -/
structure Contact where
  phoneNumber : Text := []
  firstName : Text := []
  lastName : Text := []
  userId : Int64 := 0
  vcard : Text := []
  deriving DecidableEq, Repr

/-- C++ `struct Venue`. -/
structure Venue where
  location : Location := {}
  title : Text := []
  address : Text := []
  provider : Text := []
  id : Text := []
  type : Text := []
  deriving DecidableEq, Repr

/-- C++ `struct Dice`. -/
structure Dice where
  emoji : Text := []
  value : Int32 := 0
  deriving DecidableEq, Repr

/-! ## TDLib objects -/

namespace TdApi

/-- `td_api::remoteFile`. -/
structure RemoteFile where
  uniqueId : Text
  deriving DecidableEq, Repr

/-- `td_api::file`. -/
structure File where
  id : Int32
  size : Int64
  remote : Option RemoteFile
  deriving DecidableEq, Repr

/-- `td_api::photoSize`. -/
structure PhotoSize where
  photo : Option File
  width : Int32
  height : Int32
  deriving DecidableEq, Repr

/-- `td_api::thumbnail`. -/
structure Thumbnail where
  width : Int32
  height : Int32
  file : Option File
  deriving DecidableEq, Repr

/-- `td_api::photo`. -/
structure Photo where
  sizes : List (Option PhotoSize)
  deriving DecidableEq, Repr

/-- `td_api::video`. -/
structure Video where
  duration : Int32
  width : Int32
  height : Int32
  fileName : Text
  mimeType : Text
  thumbnail : Option Thumbnail
  video : Option File
  deriving DecidableEq, Repr

/-- `td_api::document`. -/
structure Document where
  fileName : Text
  mimeType : Text
  thumbnail : Option Thumbnail
  document : Option File
  deriving DecidableEq, Repr

/-- `td_api::audio`. -/
structure Audio where
  duration : Int32
  title : Text
  performer : Text
  mimeType : Text
  albumCoverThumbnail : Option Thumbnail
  audio : Option File
  deriving DecidableEq, Repr

/-- `td_api::voiceNote`. -/
structure VoiceNote where
  duration : Int32
  mimeType : Text
  voice : Option File
  deriving DecidableEq, Repr

/-- `td_api::videoNote`. -/
structure VideoNote where
  duration : Int32
  length : Int32
  thumbnail : Option Thumbnail
  video : Option File
  deriving DecidableEq, Repr

/-- `td_api::animation`. -/
structure Animation where
  duration : Int32
  width : Int32
  height : Int32
  fileName : Text
  mimeType : Text
  thumbnail : Option Thumbnail
  animation : Option File
  deriving DecidableEq, Repr

/-- `td_api::sticker`. -/
structure Sticker where
  width : Int32
  height : Int32
  emoji : Text
  isAnimated : Bool
  thumbnail : Option Thumbnail
  sticker : Option File
  deriving DecidableEq, Repr

/-- `td_api::pollOption`. -/
structure PollOption where
  text : Text
  voterCount : Int32
  deriving DecidableEq, Repr

/-- `td_api::PollType`. -/
inductive PollType where
  | quiz (correctOptionId : Int32) (explanation : Option FormattedText)
  | regular (allowMultipleAnswers : Bool)
  deriving DecidableEq, Repr

/-- `td_api::poll`. -/
structure Poll where
  id : Int64
  question : Text
  options : List (Option PollOption)
  totalVoterCount : Int32
  isAnonymous : Bool
  type : Option PollType
  isClosed : Bool
  deriving DecidableEq, Repr

/-- `td_api::location`. -/
structure Location where
  latitude : Double
  longitude : Double
  horizontalAccuracy : Double
  deriving DecidableEq, Repr

/-- `td_api::contact`. -/
structure Contact where
  phoneNumber : Text
  firstName : Text
  lastName : Text
  vcard : Text
  userId : Int64
  deriving DecidableEq, Repr

/-- `td_api::venue`. -/
structure Venue where
  location : Option Location
  title : Text
  address : Text
  provider : Text
  id : Text
  type : Text
  deriving DecidableEq, Repr

/-- `td_api::MessageContent`, as far as `classify_media` and `convert_message` tell its classes apart. -/
inductive MessageContent where
  | messageText (text : Option FormattedText)
  | messagePhoto (photo : Option Photo) (caption : Option FormattedText)
  | messageVideo (video : Option Video) (caption : Option FormattedText)
  | messageDocument (document : Option Document) (caption : Option FormattedText)
  | messageAudio (audio : Option Audio) (caption : Option FormattedText)
  | messageVoiceNote (voiceNote : Option VoiceNote) (caption : Option FormattedText)
  | messageVideoNote (videoNote : Option VideoNote)
  | messageAnimation (animation : Option Animation) (caption : Option FormattedText)
  | messageSticker (sticker : Option Sticker)
  | messagePoll (poll : Option Poll)
  | messageLocation (location : Option Location) (livePeriod heading proximityAlertRadius : Int32)
  | messageContact (contact : Option Contact)
  | messageVenue (venue : Option Venue)
  | messageDice (emoji : Text) (value : Int32)
  | other
  deriving DecidableEq, Repr

/-- The id of a file that is there, and else the default. -/
def fileId (file : Option File) : FileId := (file.map (·.id)).getD 0

/-- The size of a file that is there, and else the default. -/
def fileSize (file : Option File) : Int64 := (file.map (·.size)).getD 0

/-- The unique id of a file that has a remote copy, and else the default. -/
def fileUniqueId (file : Option File) : Text :=
  ((file.bind (·.remote)).map (·.uniqueId)).getD []

end TdApi

/-! ## Conversions -/

open TdApi (fileId fileSize fileUniqueId)

/-- `classify_media`. -/
def classifyMedia : TdApi.MessageContent → MediaType
  | .messagePhoto .. => .Photo
  | .messageVideo .. => .Video
  | .messageDocument .. => .Document
  | .messageAudio .. => .Audio
  | .messageVoiceNote .. => .Voice
  | .messageVideoNote _ => .VideoNote
  | .messageAnimation .. => .Animation
  | .messageSticker _ => .Sticker
  | .messagePoll _ => .Poll
  | .messageLocation .. => .Location
  | .messageContact _ => .Contact
  | .messageVenue _ => .Venue
  | .messageDice .. => .Dice
  | .messageText _ | .other => .None

/-- `convert_photo_size`. -/
def convertPhotoSize (ps : TdApi.PhotoSize) : PhotoSize where
  width := ps.width
  height := ps.height
  fileId := fileId ps.photo
  fileSize := fileSize ps.photo
  fileUniqueId := fileUniqueId ps.photo

/-- `convert_thumbnail`. -/
def convertThumbnail (t : Option TdApi.Thumbnail) : Option PhotoSize := do
  let t ← t
  let file ← t.file
  return { width := t.width
           height := t.height
           fileId := fileId (some file)
           fileSize := fileSize (some file)
           fileUniqueId := fileUniqueId (some file) }

/-- `extract_media` on a photo, which is none where all its sizes are null. -/
def extractPhoto (photo : TdApi.Photo) : Option Photo :=
  let sizes := photo.sizes.filterMap fun s => s.map convertPhotoSize
  if sizes = [] then none else some { sizes := sizes }

/-- `extract_media` on a video. -/
def extractVideo (video : TdApi.Video) : VideoInfo where
  width := video.width
  height := video.height
  duration := video.duration
  mimeType := video.mimeType
  fileName := video.fileName
  fileId := fileId video.video
  fileSize := fileSize video.video
  fileUniqueId := fileUniqueId video.video
  thumbnail := convertThumbnail video.thumbnail

/-- `extract_media` on a document. -/
def extractDocument (document : TdApi.Document) : DocumentInfo where
  fileName := document.fileName
  mimeType := document.mimeType
  fileId := fileId document.document
  fileSize := fileSize document.document
  fileUniqueId := fileUniqueId document.document
  thumbnail := convertThumbnail document.thumbnail

/-- `extract_media` on an audio file. -/
def extractAudio (audio : TdApi.Audio) : AudioInfo where
  duration := audio.duration
  title := audio.title
  performer := audio.performer
  mimeType := audio.mimeType
  fileId := fileId audio.audio
  fileSize := fileSize audio.audio
  fileUniqueId := fileUniqueId audio.audio
  thumbnail := convertThumbnail audio.albumCoverThumbnail

/-- `extract_media` on a voice note. -/
def extractVoiceNote (voiceNote : TdApi.VoiceNote) : VoiceNoteInfo where
  duration := voiceNote.duration
  mimeType := voiceNote.mimeType
  fileId := fileId voiceNote.voice
  fileSize := fileSize voiceNote.voice
  fileUniqueId := fileUniqueId voiceNote.voice

/-- `extract_media` on a video note. -/
def extractVideoNote (videoNote : TdApi.VideoNote) : VideoNoteInfo where
  length := videoNote.length
  duration := videoNote.duration
  fileId := fileId videoNote.video
  fileSize := fileSize videoNote.video
  fileUniqueId := fileUniqueId videoNote.video
  thumbnail := convertThumbnail videoNote.thumbnail

/-- `extract_media` on an animation. -/
def extractAnimation (animation : TdApi.Animation) : AnimationInfo where
  width := animation.width
  height := animation.height
  duration := animation.duration
  mimeType := animation.mimeType
  fileName := animation.fileName
  fileId := fileId animation.animation
  fileSize := fileSize animation.animation
  fileUniqueId := fileUniqueId animation.animation
  thumbnail := convertThumbnail animation.thumbnail

/-- `extract_media` on a sticker. -/
def extractSticker (sticker : TdApi.Sticker) : StickerInfo where
  width := sticker.width
  height := sticker.height
  emoji := sticker.emoji
  isAnimated := sticker.isAnimated
  isVideo := false
  fileId := fileId sticker.sticker
  fileSize := fileSize sticker.sticker
  fileUniqueId := fileUniqueId sticker.sticker
  thumbnail := convertThumbnail sticker.thumbnail

/-- `extract_media` on a poll. -/
def extractPoll (poll : TdApi.Poll) : Poll :=
  let p : Poll :=
    { id := poll.id
      question := poll.question
      options := poll.options.filterMap fun o => o.map fun o =>
        { text := o.text, voterCount := o.voterCount }
      totalVoterCount := poll.totalVoterCount
      isClosed := poll.isClosed
      isAnonymous := poll.isAnonymous }
  match poll.type with
  | some (.quiz correctOptionId explanation) =>
    { p with
      type := .Quiz
      correctOptionId := some correctOptionId
      explanation := (explanation.map (·.text)).getD [] }
  | some (.regular allowMultipleAnswers) =>
    { p with type := .Regular, allowsMultipleAnswers := allowMultipleAnswers }
  | none => p

/-- `extract_media` on a location. -/
def extractLocation (location : TdApi.Location) (livePeriod heading proximityAlertRadius : Int32) :
    Location where
  latitude := location.latitude
  longitude := location.longitude
  horizontalAccuracy := location.horizontalAccuracy
  livePeriod := livePeriod
  heading := heading
  proximityAlertRadius := proximityAlertRadius

/-- `extract_media` on a contact. -/
def extractContact (contact : TdApi.Contact) : Contact where
  phoneNumber := contact.phoneNumber
  firstName := contact.firstName
  lastName := contact.lastName
  userId := contact.userId
  vcard := contact.vcard

/-- `extract_media` on a venue, whose place has no more than its coordinates. -/
def extractVenue (venue : TdApi.Venue) : Venue where
  location :=
    match venue.location with
    | some location =>
      { latitude := location.latitude
        longitude := location.longitude
        horizontalAccuracy := location.horizontalAccuracy }
    | none => {}
  title := venue.title
  address := venue.address
  provider := venue.provider
  id := venue.id
  type := venue.type

end CppGram.Backend
