import PillarSignal.Android.ProtocolStorage

namespace PillarSignal.Android.MessageStorage

open Storage

inductive HistoryFile where
  | messages
  | messages_txnote
  | messages_other
deriving DecidableEq, Repr

def HistoryFile.fileName : HistoryFile → String
  | messages => "messages.json"
  | messages_txnote => "messages_txnote.json"
  | messages_other => "messages_other.json"

def getMessageStoreFilename (tag : String) : HistoryFile :=
  if tag = "chat" then .messages else if tag = "tx-note" then .messages_txnote else .messages_other

variable (p : Platform)

def directory : Path := "messages" :: p.filesDir

/-- The names of `absolutePath + "/messages/" + username`. -/
def contactNames (username : String) : List String := "messages" :: components username

def fileNames (username : String) (file : HistoryFile) : List String := contactNames username ++ [file.fileName]

def readFromStorage (username : String) (file : HistoryFile) (files : Files) : Option (List Char) :=
  (files.tree.readFile p.filesDir (fileNames username file)).map joinLines

def writeToStorageFile (username : String) (file : HistoryFile) (data : List Char) (files : Files) : Files :=
  let opened := { files with tree := files.tree.makeDirs p.filesDir ["messages"] }
  match opened.tree.resolve p.filesDir (fileNames username file) with
  | some path => opened.write path data
  | none => opened

def deleteAll (files : Files) : Files := { files with tree := files.tree.deleteAt p.filesDir ["messages"] }

def deleteAllContactMessages (username : String) (files : Files) : Files :=
  { files with tree := files.tree.deleteAt p.filesDir (contactNames username) }

def deleteContactMessages (username tag : String) (files : Files) : Files :=
  { files with tree := files.tree.deleteAt p.filesDir (fileNames username (getMessageStoreFilename tag)) }

/-- `data == null || data.isEmpty()` falls back on an empty array. -/
def readHistory (username : String) (file : HistoryFile) (files : Files) : Except Thrown (List Json) :=
  match readFromStorage p username file files with
  | none | some [] => p.json.newJSONArray ['[', ']']
  | some data => p.json.newJSONArray data

/-- The directory is made first; a history that does not parse is left as it is. -/
def storeMessage (username : String) (newMessage : Json) (tag : String) (files : Files) : Files :=
  let made := { files with tree := files.tree.makeDirs p.filesDir (contactNames username) }
  match readHistory p username (getMessageStoreFilename tag) made with
  | .error _ => made
  | .ok existing =>
    writeToStorageFile p username (getMessageStoreFilename tag) (p.json.print (.arr (existing ++ [newMessage]))) made

def getContactMessages (username tag : String) (files : Files) : List Json :=
  match readHistory p username (getMessageStoreFilename tag) files with
  | .error _ => []
  | .ok messages => messages

/-- Every entry of the messages directory is taken for a contact. -/
def getExistingMessages (tag : String) (files : Files) : List (List (String × Json)) :=
  (files.tree.children (directory p)).dedup.map fun username =>
    let chatJSONO := put "username" (.str username) []
    let chatJSONO :=
      match (getContactMessages p username tag files).getLast? with
      | none => chatJSONO
      | some last =>
        if tag = "chat" then put "lastMessage" last chatJSONO
        else put "messages" (.arr (getContactMessages p username tag files)) chatJSONO
    put "unread" (.num 0) chatJSONO

end PillarSignal.Android.MessageStorage
