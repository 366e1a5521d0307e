import SearchKit.Engine.Exchange

/-!
Writing and deleting documents.
-/

namespace SearchKit

set_option autoImplicit false

/-- The id of a document: the text of its member `id`, unless that is missing or null. -/
def Json.documentId? (document : Json) : Option String :=
  match document.member? "id" with
  | none | some .null => none
  | some id => some id.scalarText

namespace Operation

def saveDocument (index docType : String) (id : Option String) (document : Json) :
    Operation Bool :=
  acknowledge (.indexDocument index docType id document)

/-- Saves a document under its own id. Without an id nothing is sent. -/
def saveIdentified (index docType : String) (document : Json) : Operation Bool :=
  match document.documentId? with
  | some id => saveDocument index docType (some id) document
  | none => return false

/-- Saves the documents that have an id, one by one. A rejected document does not stop the rest. -/
def saveEach (index docType : String) (idOf : Json → Option String) :
    List Json → Operation Unit
  | [] => return ()
  | document :: rest => do
      match idOf document with
      | some id => discard (saveDocument index docType (some id) document)
      | none => pure ()
      saveEach index docType idOf rest

def saveListBy (index docType : String) (idOf : Json → Option String) (documents : List Json) :
    Operation Unit :=
  if documents.isEmpty then throw (.invalidRequest .noDocuments)
  else saveEach index docType idOf documents

def saveList (index docType : String) (documents : List Json) : Operation Unit :=
  saveListBy index docType Json.documentId? documents

def indexItems (index docType : String) (documents : List Json) : List BulkItem :=
  documents.filterMap fun document =>
    document.documentId?.map fun id => .index ⟨index, docType, id⟩ document

/-- Saves all documents that have an id in one action. When there is none, nothing is sent. -/
def saveBulk (index docType : String) (documents : List Json) : Operation Bool :=
  let items := indexItems index docType documents
  if items.isEmpty then return false else acknowledge (.bulk items)

def updateDocument (index docType id : String) (payload : Json) : Operation Bool :=
  acknowledge (.bulk [.update ⟨index, docType, id⟩ payload])

def deleteDocument (index docType id : String) : Operation Bool :=
  acknowledge (.bulk [.delete ⟨index, docType, id⟩])

def deleteByQuery (index docType query : String) : Operation Bool := do
  let parsed ← ofChecked ((Json.ofText query).mapError .deleteQueryNotJson)
  acknowledge (.deleteByQuery index docType parsed)

end Operation

end SearchKit
