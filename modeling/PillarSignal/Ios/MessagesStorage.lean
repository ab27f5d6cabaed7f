import PillarSignal.Ios.ProtocolStorage

namespace PillarSignal.Ios

open Storage ProtocolStorage DownloadsType

structure ParsedMessageDTO where
  dictionary : Dictionary
deriving DecidableEq

namespace MessagesStorage

def getMessageStorageFilename (tag : String) : DownloadsType :=
  if tag = "chat" then MESSAGES_CHAT_JSON_FILENAME
  else if tag = "tx-note" then MESSAGES_TXNOTE_JSON_FILENAME
  else MESSAGES_OTHER_JSON_FILENAME

def getAllMessages (tag : String) (archives : Archives) : Dictionary :=
  (((get (getMessageStorageFilename tag) archives).lookup "allMessages").bind asDictionary).getD []

def saveAllMessages (tag : String) (localJson : Dictionary) (archives : Archives) : Archives :=
  ProtocolStorage.save [("allMessages", .obj localJson)] (getMessageStorageFilename tag) archives

def userMessages (username : String) (localJson : Dictionary) : Option (List Dictionary) := do
  let userData ← (localJson.lookup username).bind asDictionary
  (userData.lookup "messages").bind asDictionaries

def save (message : ParsedMessageDTO) (username tag : String) (archives : Archives) : Archives :=
  let localJson := getAllMessages tag archives
  let userData := ((localJson.lookup username).bind asDictionary).getD []
  let parsedMessages := (((userData.lookup "messages").bind asDictionaries).getD []) ++ [message.dictionary]
  let userData := put "messages" (.arr (parsedMessages.map .obj)) userData
  saveAllMessages tag (put username (.obj userData) localJson) archives

def getMessages (username tag : String) (archives : Archives) : List ParsedMessageDTO :=
  ((userMessages username (getAllMessages tag archives)).getD []).map ParsedMessageDTO.mk

def deleteContactMessages (username tag : String) (archives : Archives) : Archives :=
  saveAllMessages tag (erase username (getAllMessages tag archives)) archives

def availableTags : List String := ["chat", "tx-note", "other"]

def deleteAllContactMessages (username : String) (archives : Archives) : Archives :=
  availableTags.foldl (fun archives tag => deleteContactMessages username tag archives) archives

theorem storage_mem (tag : String) : getMessageStorageFilename tag ∈
    [MESSAGES_CHAT_JSON_FILENAME, MESSAGES_TXNOTE_JSON_FILENAME, MESSAGES_OTHER_JSON_FILENAME] := by
  unfold getMessageStorageFilename
  split
  · simp
  · split <;> simp

theorem storage_not_mem (tag : String) {types : List DownloadsType} (apart : ∀ type ∈
    [MESSAGES_CHAT_JSON_FILENAME, MESSAGES_TXNOTE_JSON_FILENAME, MESSAGES_OTHER_JSON_FILENAME], type ∉ types) :
    getMessageStorageFilename tag ∉ types := apart _ (storage_mem tag)

theorem storage_ne (tag : String) {type : DownloadsType} (other : type ∉
    [MESSAGES_CHAT_JSON_FILENAME, MESSAGES_TXNOTE_JSON_FILENAME, MESSAGES_OTHER_JSON_FILENAME]) :
    getMessageStorageFilename tag ≠ type := fun same => other (same ▸ storage_mem tag)

theorem get_saveAllMessages {type : DownloadsType} (other : type ∉
    [MESSAGES_CHAT_JSON_FILENAME, MESSAGES_TXNOTE_JSON_FILENAME, MESSAGES_OTHER_JSON_FILENAME])
    (tag : String) (localJson : Dictionary) (archives : Archives) :
    get type (saveAllMessages tag localJson archives) = get type archives := by
  rw [saveAllMessages, get_save, if_neg (storage_ne tag other).symm]

theorem getMessages_congr {before after : Archives} {tag : String}
    (same : get (getMessageStorageFilename tag) after = get (getMessageStorageFilename tag) before) (username : String) :
    getMessages username tag after = getMessages username tag before := by
  rw [getMessages, getAllMessages, same]
  rfl

theorem getMessages_destroyAllExceptMessages (archives : Archives) (username tag : String) :
    getMessages username tag (destroyAllExceptMessages archives) = getMessages username tag archives := by
  apply getMessages_congr
  unfold ProtocolStorage.get destroyAllExceptMessages destroyByType
  simp only [Function.update_of_ne (storage_ne tag (by decide : LOCAL_JSON_FILENAME ∉ _)),
    Function.update_of_ne (storage_ne tag (by decide : IDENTITES_JSON_FILENAME ∉ _)),
    Function.update_of_ne (storage_ne tag (by decide : SESSIONS_JSON_FILENAME ∉ _)),
    Function.update_of_ne (storage_ne tag (by decide : SIGNED_PRE_KEYS_JSON_FILENAME ∉ _)),
    Function.update_of_ne (storage_ne tag (by decide : PRE_KEYS_JSON_FILENAME ∉ _))]

theorem getAllMessages_saveAllMessages (tag other : String) (localJson : Dictionary) (archives : Archives) :
    getAllMessages other (saveAllMessages tag localJson archives) =
      if getMessageStorageFilename other = getMessageStorageFilename tag then localJson
      else getAllMessages other archives := by
  unfold getAllMessages saveAllMessages
  rw [get_save]
  split
  · rfl
  · rfl

theorem lookup_save (message : ParsedMessageDTO) (username tag label name : String) (archives : Archives) :
    ∃ userData, (getAllMessages label (save message username tag archives)).lookup name =
      if getMessageStorageFilename label = getMessageStorageFilename tag ∧ username = name then some (.obj userData)
      else (getAllMessages label archives).lookup name := by
  rw [save, getAllMessages_saveAllMessages]
  by_cases file : getMessageStorageFilename label = getMessageStorageFilename tag
  · have same : getAllMessages label archives = getAllMessages tag archives := by
      rw [getAllMessages, getAllMessages, file]
    rw [if_pos file, lookup_put, same]
    simp only [file, true_and]
    exact ⟨_, rfl⟩
  · refine ⟨[], ?_⟩
    rw [if_neg file, if_neg fun both => file both.1]

theorem lookup_deleteContactMessages (username tag label name : String) (archives : Archives) :
    (getAllMessages label (deleteContactMessages username tag archives)).lookup name =
      if getMessageStorageFilename label = getMessageStorageFilename tag ∧ username = name then none
      else (getAllMessages label archives).lookup name := by
  rw [deleteContactMessages, getAllMessages_saveAllMessages]
  by_cases file : getMessageStorageFilename label = getMessageStorageFilename tag
  · have same : getAllMessages label archives = getAllMessages tag archives := by
      rw [getAllMessages, getAllMessages, file]
    rw [if_pos file, lookup_erase, same]
    simp only [file, true_and]
  · simp only [file, false_and, if_false]

theorem lookup_deleteAllContactMessages (username label name : String) (archives : Archives) :
    (getAllMessages label (deleteAllContactMessages username archives)).lookup name =
      if username = name then none else (getAllMessages label archives).lookup name := by
  have covered := storage_mem label
  have chat : getMessageStorageFilename "chat" = MESSAGES_CHAT_JSON_FILENAME := by decide
  have note : getMessageStorageFilename "tx-note" = MESSAGES_TXNOTE_JSON_FILENAME := by decide
  have rest : getMessageStorageFilename "other" = MESSAGES_OTHER_JSON_FILENAME := by decide
  rw [deleteAllContactMessages, availableTags, List.foldl_cons, List.foldl_cons, List.foldl_cons, List.foldl_nil]
  simp only [lookup_deleteContactMessages, chat, note, rest]
  simp only [List.mem_cons, List.not_mem_nil, or_false] at covered
  by_cases own : username = name
  · rcases covered with file | file | file <;> simp [own, file]
  · simp [own]

theorem asDictionaries_items (items : List Dictionary) : asDictionaries (.arr (items.map .obj)) = some items := by
  rw [asDictionaries]
  induction items with
  | nil => rfl
  | cons item items ih => simp [asDictionary, ih]

theorem userMessages_put (username : String) (items : List Dictionary) (userData localJson : Dictionary) :
    userMessages username (put username (.obj (put "messages" (.arr (items.map .obj)) userData)) localJson) =
      some items := by
  simp only [userMessages, lookup_put_self, Option.bind_some, asDictionary, asDictionaries_items, Option.bind_eq_bind]

theorem userMessages_getD (username : String) (localJson : Dictionary) :
    (userMessages username localJson).getD [] =
      (((((localJson.lookup username).bind asDictionary).getD []).lookup "messages").bind asDictionaries).getD [] := by
  unfold userMessages
  cases (localJson.lookup username).bind asDictionary <;> rfl

theorem getMessages_save (message : ParsedMessageDTO) (username tag other otherTag : String) (archives : Archives) :
    getMessages other otherTag (save message username tag archives) =
      if other = username ∧ getMessageStorageFilename otherTag = getMessageStorageFilename tag then
        getMessages other otherTag archives ++ [message]
      else getMessages other otherTag archives := by
  unfold getMessages
  rw [save, getAllMessages_saveAllMessages]
  by_cases file : getMessageStorageFilename otherTag = getMessageStorageFilename tag
  · have same : getAllMessages otherTag archives = getAllMessages tag archives := by
      rw [getAllMessages, getAllMessages, file]
    rw [if_pos file, same]
    by_cases own : other = username
    · subst own
      rw [if_pos ⟨rfl, file⟩, userMessages_put, userMessages_getD, Option.getD_some, List.map_append]
      rfl
    · rw [if_neg fun both => own both.1, userMessages, userMessages, lookup_put, if_neg (Ne.symm own)]
  · rw [if_neg file, if_neg fun both => file both.2]

theorem getMessages_deleteContactMessages (username tag other otherTag : String) (archives : Archives) :
    getMessages other otherTag (deleteContactMessages username tag archives) =
      if other = username ∧ getMessageStorageFilename otherTag = getMessageStorageFilename tag then []
      else getMessages other otherTag archives := by
  unfold getMessages
  rw [deleteContactMessages, getAllMessages_saveAllMessages]
  by_cases file : getMessageStorageFilename otherTag = getMessageStorageFilename tag
  · have same : getAllMessages otherTag archives = getAllMessages tag archives := by
      rw [getAllMessages, getAllMessages, file]
    rw [if_pos file, same]
    by_cases own : other = username
    · subst own
      rw [if_pos ⟨rfl, file⟩]
      simp [userMessages, lookup_erase]
    · rw [if_neg fun both => own both.1, userMessages, userMessages, lookup_erase, if_neg (Ne.symm own)]
  · rw [if_neg file, if_neg fun both => file both.2]

end MessagesStorage
end PillarSignal.Ios
