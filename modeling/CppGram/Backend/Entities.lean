import CppGram.Backend.Types
import CppGram.Lib.Json
import CppGram.Lib.Tables

/-!
# Users and chats

The entities of C++ `user.hpp` and `chat.hpp`, the conversions of TDLib's objects into them, the caches
of `ClientImpl` with the functions that fill and read them, and the methods of `Chat`. An entity has a
`std::weak_ptr` to the backend that it acts through. The backend that a call is made on is alive, so a
pointer is the number of a backend, or none.
-/

namespace CppGram.Backend
open Json (ascii printInt)

/-- The id of a user. -/
abbrev UserId := Int64

/-- C++ `std::weak_ptr<IBackend>`. -/
abbrev BackendPtr := Option Nat

/-! ## Entities -/

/-- C++ `enum class ChatType`. -/
inductive ChatType where
  | Private
  | BasicGroup
  | Supergroup
  | Channel
  | Secret
  | Unknown
  deriving DecidableEq, Repr

/-- C++ `struct ChatPermissions`. -/
structure ChatPermissions where
  canSendMessages : Bool := true
  canSendMedia : Bool := true
  canSendPolls : Bool := true
  canSendOther : Bool := true
  canAddWebPagePreviews : Bool := true
  canChangeInfo : Bool := false
  canInviteUsers : Bool := true
  canPinMessages : Bool := false
  canManageTopics : Bool := false
  deriving DecidableEq, Repr

/-- C++ `struct ChatAdminRights`. -/
structure ChatAdminRights where
  canManageChat : Bool := false
  canChangeInfo : Bool := false
  canPostMessages : Bool := false
  canEditMessages : Bool := false
  canDeleteMessages : Bool := false
  canInviteUsers : Bool := false
  canRestrictMembers : Bool := false
  canPinMessages : Bool := false
  canPromoteMembers : Bool := false
  canManageVideoChats : Bool := false
  isAnonymous : Bool := false
  customTitle : Text := []
  deriving DecidableEq, Repr

/-- C++ `class User`. -/
structure User where
  id : UserId := 0
  firstName : Text := []
  lastName : Text := []
  username : Text := []
  phoneNumber : Text := []
  isBot : Bool := false
  isPremium : Bool := false
  isVerified : Bool := false
  isScam : Bool := false
  isFake : Bool := false
  client : BackendPtr := none
  deriving DecidableEq, Repr

/-- C++ `class Chat`. -/
structure Chat where
  id : ChatId := 0
  type : ChatType := .Unknown
  title : Text := []
  username : Text := []
  description : Text := []
  inviteLink : Text := []
  memberCount : Int32 := 0
  permissions : ChatPermissions := {}
  hasProtectedContent : Bool := false
  client : BackendPtr := none
  deriving DecidableEq, Repr

/-! ## TDLib objects -/

namespace TdApi

/-- `td_api::UserType`, as far as `convert_user` tells its classes apart. -/
inductive UserType where
  | bot
  | other
  deriving DecidableEq, Repr

/-- `td_api::user`. -/
structure User where
  id : Int64
  firstName : Text := []
  lastName : Text := []
  username : Text := []
  phoneNumber : Text := []
  type : Option UserType := none
  isVerified : Bool := false
  isScam : Bool := false
  isFake : Bool := false
  deriving DecidableEq, Repr

/-- `td_api::ChatType`. -/
inductive ChatType where
  | typePrivate
  | typeBasicGroup
  | typeSupergroup (isChannel : Bool)
  | typeSecret
  | typeOther
  deriving DecidableEq, Repr

/-- `td_api::chatPermissions`. -/
structure ChatPermissions where
  canSendMessages : Bool
  canSendMediaMessages : Bool
  canSendPolls : Bool
  canSendOtherMessages : Bool
  canAddWebPagePreviews : Bool
  canChangeInfo : Bool
  canInviteUsers : Bool
  canPinMessages : Bool
  deriving DecidableEq, Repr

/-- `td_api::chat`. -/
structure Chat where
  id : Int64
  title : Text := []
  type : Option ChatType := none
  permissions : Option ChatPermissions := none
  hasProtectedContent : Bool := false
  deriving DecidableEq, Repr

/-- What TDLib answers to a query. -/
inductive Object where
  | user (u : User)
  | chat (c : Chat)
  | error (code : Int32) (message : Text)
  | other
  deriving DecidableEq, Repr

end TdApi

/-! ## Conversions -/

/-- `convert_chat_type`. -/
def convertChatType : TdApi.ChatType → ChatType
  | .typePrivate => .Private
  | .typeBasicGroup => .BasicGroup
  | .typeSupergroup isChannel => if isChannel then .Channel else .Supergroup
  | .typeSecret => .Secret
  | .typeOther => .Unknown

/-- `convert_user`. -/
def convertUser (u : TdApi.User) (backend : BackendPtr := none) : User where
  id := u.id
  firstName := u.firstName
  lastName := u.lastName
  username := u.username
  phoneNumber := u.phoneNumber
  isBot := u.type = some .bot
  isPremium := false
  isVerified := u.isVerified
  isScam := u.isScam
  isFake := u.isFake
  client := backend

/-- What `convert_chat` makes of the permissions that are there. -/
def convertPermissions (permissions : TdApi.ChatPermissions) : ChatPermissions where
  canSendMessages := permissions.canSendMessages
  canSendMedia := permissions.canSendMediaMessages
  canSendPolls := permissions.canSendPolls
  canSendOther := permissions.canSendOtherMessages
  canAddWebPagePreviews := permissions.canAddWebPagePreviews
  canChangeInfo := permissions.canChangeInfo
  canInviteUsers := permissions.canInviteUsers
  canPinMessages := permissions.canPinMessages
  canManageTopics := false

/-- `convert_chat`. -/
def convertChat (c : TdApi.Chat) (backend : BackendPtr := none) : Chat where
  id := c.id
  title := c.title
  type := (c.type.map convertChatType).getD .Unknown
  hasProtectedContent := c.hasProtectedContent
  permissions := (c.permissions.map convertPermissions).getD {}
  client := backend

/-! ## The caches -/

/-- The caches of C++ `class ClientImpl`, under `cache_mtx_`. -/
structure Caches where
  userCache : List (UserId × User) := []
  chatCache : List (ChatId × Chat) := []
  chatTypeCache : List (ChatId × ChatType) := []
  deriving DecidableEq, Repr

/-- What a query throws. -/
inductive QueryFault where
  /-- `Error::from_rpc(rpc_code, message)`, raised with another text. -/
  | rpc (rpcCode : Int32) (message text : Text)
  /-- `throw CppGramException(what)`. -/
  | cppGramException (what : Text)
  deriving DecidableEq, Repr

/-- `ClientImpl::check_error`. -/
def checkError (obj : Option TdApi.Object) (context : Text) : Except QueryFault Unit :=
  match obj with
  | some (.error code message) =>
    .error (.rpc code message
      (context ++ ascii ": " ++ message ++ ascii " (code " ++ printInt code.toInt ++ ascii ")"))
  | _ => .ok ()

namespace Caches

/-- Stores a user under its id. -/
def setUser (c : Caches) (id : UserId) (user : User) : Caches :=
  { c with userCache := Tables.upsert Prod.fst (id, user) c.userCache }

/-- Stores a chat under its id, and its type if it is known. -/
def setChat (c : Caches) (id : ChatId) (chat : Chat) (type : Option TdApi.ChatType) : Caches :=
  { c with
    chatCache := Tables.upsert Prod.fst (id, chat) c.chatCache
    chatTypeCache :=
      match type with
      | some type => Tables.upsert Prod.fst (id, convertChatType type) c.chatTypeCache
      | none => c.chatTypeCache }

/-- Looks a user up. -/
def findUser (c : Caches) (id : UserId) : Option User :=
  (Tables.find Prod.fst c.userCache id).map Prod.snd

/-- Looks a chat up. -/
def findChat (c : Caches) (id : ChatId) : Option Chat :=
  (Tables.find Prod.fst c.chatCache id).map Prod.snd

/-- `ClientImpl::process_update` on an `updateUser`. -/
def updateUser (c : Caches) (user : Option TdApi.User) : Caches :=
  match user with
  | some u => c.setUser u.id (convertUser u)
  | none => c

/-- `ClientImpl::process_update` on an `updateNewChat`. -/
def updateNewChat (c : Caches) (chat : Option TdApi.Chat) : Caches :=
  match chat with
  | some chat => c.setChat chat.id (convertChat chat) chat.type
  | none => c

variable (self : Nat)

/-- The end of `getMe` and `getUser`, from the answer of TDLib. -/
def receiveUser (context : Text) (answer : Option TdApi.Object) (c : Caches) :
    Except QueryFault User × Caches :=
  match checkError answer context with
  | .error fault => (.error fault, c)
  | .ok () =>
    match answer with
    | some (.user u) =>
      let user := convertUser u (some self)
      (.ok user, c.setUser user.id user)
    | _ => (.error (.cppGramException (context ++ ascii ": unexpected response")), c)

/-- The end of `getChat`. -/
def receiveChat (answer : Option TdApi.Object) (c : Caches) : Except QueryFault Chat × Caches :=
  match checkError answer (ascii "getChat") with
  | .error fault => (.error fault, c)
  | .ok () =>
    match answer with
    | some (.chat chat) =>
      let converted := convertChat chat (some self)
      (.ok converted, c.setChat converted.id converted chat.type)
    | _ => (.error (.cppGramException (ascii "getChat: unexpected response")), c)

/-- `ClientImpl::getMe`. -/
def getMe (answer : Option TdApi.Object) (c : Caches) : Except QueryFault User × Caches :=
  receiveUser self (ascii "getMe") answer c

/-- `ClientImpl::getUser`, with what TDLib would answer. -/
def getUser (id : UserId) (answer : Option TdApi.Object) (c : Caches) :
    Except QueryFault User × Caches :=
  match c.findUser id with
  | some user => (.ok user, c)
  | none => receiveUser self (ascii "getUser") answer c

/-- `ClientImpl::getChat`, with what TDLib would answer. -/
def getChat (id : ChatId) (answer : Option TdApi.Object) (c : Caches) :
    Except QueryFault Chat × Caches :=
  match c.findChat id with
  | some chat => (.ok chat, c)
  | none => receiveChat self answer c

end Caches

/-! ## Methods of chats -/

/-- The methods of `IBackend` that chats call. -/
inductive BackendCall where
  | sendMessage (chatId : ChatId) (text : Text) (replyTo : Option MessageId)
  | leaveChat (chatId : ChatId)
  | joinChat (chatId : ChatId)
  | getChatMembers (chatId : ChatId)
  | setChatTitle (chatId : ChatId) (title : Text)
  | setChatDescription (chatId : ChatId) (description : Text)
  | setChatPhoto (chatId : ChatId) (photo : InputFile)
  | deleteChatPhoto (chatId : ChatId)
  | setChatPermissions (chatId : ChatId) (permissions : ChatPermissions)
  | banChatMember (chatId : ChatId) (userId : UserId)
  | unbanChatMember (chatId : ChatId) (userId : UserId)
  | promoteChatMember (chatId : ChatId) (userId : UserId) (rights : ChatAdminRights)
  | restrictChatMember (chatId : ChatId) (userId : UserId) (permissions : ChatPermissions)
  | getChatInviteLink (chatId : ChatId)
  | getChatMemberCount (chatId : ChatId)
  | getScheduledMessages (chatId : ChatId)
  deriving DecidableEq, Repr

namespace Chat

/-- `if (auto c = _client.lock()) return c->…`, which else comes to nothing: the call that is made, and
    the backend that it is made on. -/
def onClient (chat : Chat) (call : ChatId → BackendCall) : Option (Nat × BackendCall) :=
  chat.client.map fun c => (c, call chat.id)

/-- `Chat::sendMessage`. -/
def sendMessage (chat : Chat) (body : Text) := chat.onClient (.sendMessage · body none)

/-- `Chat::leave`. -/
def leave (chat : Chat) := chat.onClient .leaveChat

/-- `Chat::join`. -/
def join (chat : Chat) := chat.onClient .joinChat

/-- `Chat::members`. -/
def members (chat : Chat) := chat.onClient .getChatMembers

/-- `Chat::setTitle`. -/
def setTitle (chat : Chat) (newTitle : Text) := chat.onClient (.setChatTitle · newTitle)

/-- `Chat::setDescription`. -/
def setDescription (chat : Chat) (desc : Text) := chat.onClient (.setChatDescription · desc)

/-- `Chat::setPhoto`. -/
def setPhoto (chat : Chat) (photo : InputFile) := chat.onClient (.setChatPhoto · photo)

/-- `Chat::deletePhoto`. -/
def deletePhoto (chat : Chat) := chat.onClient .deleteChatPhoto

/-- `Chat::setPermissions`. -/
def setPermissions (chat : Chat) (perms : ChatPermissions) :=
  chat.onClient (.setChatPermissions · perms)

/-- `Chat::banMember`. -/
def banMember (chat : Chat) (userId : UserId) := chat.onClient (.banChatMember · userId)

/-- `Chat::unbanMember`. -/
def unbanMember (chat : Chat) (userId : UserId) := chat.onClient (.unbanChatMember · userId)

/-- `Chat::promoteMember`. -/
def promoteMember (chat : Chat) (userId : UserId) (rights : ChatAdminRights) :=
  chat.onClient (.promoteChatMember · userId rights)

/-- `Chat::restrictMember`. -/
def restrictMember (chat : Chat) (userId : UserId) (perms : ChatPermissions) :=
  chat.onClient (.restrictChatMember · userId perms)

/-- `Chat::getInviteLink`. -/
def getInviteLink (chat : Chat) := chat.onClient .getChatInviteLink

/-- `Chat::getMemberCount`. -/
def getMemberCount (chat : Chat) := chat.onClient .getChatMemberCount

/-- `Chat::getScheduledMessages`. -/
def getScheduledMessages (chat : Chat) := chat.onClient .getScheduledMessages

end Chat

end CppGram.Backend
