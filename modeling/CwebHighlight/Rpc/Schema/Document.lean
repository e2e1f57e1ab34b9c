import CwebHighlight.Rpc.Schema

/-!
# Schemas about documents

Places in documents, documents and their parts, and the fields that many parameters share.
-/

namespace CwebHighlight.Rpc.Schema

/-! ## Places -/

def position : Schema := record "Position" [("line", word32), ("character", word32)]

def range : Schema := record "Range" [("start", position), ("end", position)]

def location : Schema := record "Location" [("uri", address), ("range", range)]

/-! ## Documents -/

def documentIdentifier : Schema := record "TextDocumentIdentifier" [("uri", address)]

def versionedIdentifier : Schema :=
  record "VersionedTextDocumentIdentifier" [("uri", address), ("version", int32)]

def documentItem : Schema :=
  record "TextDocumentItem"
    [("uri", address), ("languageId", text), ("version", int32), ("text", text)]

def contentChange : Schema :=
  record "TextDocumentContentChangeEvent"
    [("range", optional range), ("rangeLength", optional word32), ("text", text)]

/-! ## Shared fields -/

def document : String × Schema := ("textDocument", documentIdentifier)

def progressToken : Schema := oneOf "NumberOrString" [int32, text]

/-- The part of parameters that name a place. -/
def placePart : List (String × Schema) := [document, ("position", position)]

def workPart : List (String × Schema) := [("workDoneToken", optional progressToken)]

def partialPart : List (String × Schema) := [("partialResultToken", optional progressToken)]

/-- Parameters that name a place, with the parts that come after it. -/
def placed (typeName : String) (fields : List (String × Schema))
    (parts : List (List (String × Schema))) : Schema :=
  composed typeName fields (placePart :: parts) any

/-! ## Edits and diagnostics -/

def command : Schema :=
  record "Command" [("title", text), ("command", text), ("arguments", optional (list any))]

def textEdit : Schema := record "TextEdit" [("range", range), ("newText", text)]

def insertReplaceEdit : Schema :=
  record "InsertReplaceEdit" [("newText", text), ("insert", range), ("replace", range)]

def markupKind : Schema := choice ["plaintext", "markdown"]

def markup : Schema := record "MarkupContent" [("kind", markupKind), ("value", text)]

def diagnostic : Schema :=
  record "Diagnostic"
    [("range", range),
     ("severity", optional int32),
     ("code", optional progressToken),
     ("codeDescription", optional (record "CodeDescription" [("href", address)])),
     ("source", optional text),
     ("message", text),
     ("relatedInformation", optional (list (record "DiagnosticRelatedInformation"
       [("location", location), ("message", text)]))),
     ("tags", optional (list int32)),
     ("data", optional any)]

/-! ## Items that are sent back -/

def callHierarchyItem : Schema :=
  record "CallHierarchyItem"
    [("name", text), ("kind", int32), ("tags", optional (list int32)), ("detail", optional text),
     ("uri", address), ("range", range), ("selectionRange", range), ("data", optional any)]

def typeHierarchyItem : Schema :=
  record "TypeHierarchyItem"
    [("name", text), ("kind", int32), ("tags", optional int32), ("detail", optional text),
     ("uri", address), ("range", range), ("selectionRange", range), ("data", optional any)]

def documentLink : Schema :=
  record "DocumentLink"
    [("range", range), ("target", optional address), ("tooltip", optional text),
     ("data", optional any)]

def codeLens : Schema :=
  record "CodeLens" [("range", range), ("command", optional command), ("data", optional any)]

def inlayHint : Schema :=
  record "InlayHint"
    [("position", position),
     ("label", oneOf "InlayHintLabel" [text, list (record "InlayHintLabelPart"
       [("value", text),
        ("tooltip", optional (oneOf "InlayHintLabelPartTooltip" [text, markup])),
        ("location", optional location),
        ("command", optional command)])]),
     ("kind", optional int32),
     ("textEdits", optional (list textEdit)),
     ("tooltip", optional (oneOf "InlayHintTooltip" [text, markup])),
     ("paddingLeft", optional flag),
     ("paddingRight", optional flag),
     ("data", optional any)]

def completionItem : Schema :=
  record "CompletionItem"
    [("label", text),
     ("labelDetails", optional (record "CompletionItemLabelDetails"
       [("detail", optional text), ("description", optional text)])),
     ("kind", optional int32),
     ("detail", optional text),
     ("documentation", optional (oneOf "Documentation" [text, markup])),
     ("deprecated", optional flag),
     ("preselect", optional flag),
     ("sortText", optional text),
     ("filterText", optional text),
     ("insertText", optional text),
     ("insertTextFormat", optional int32),
     ("insertTextMode", optional int32),
     ("textEdit", optional (oneOf "CompletionTextEdit" [textEdit, insertReplaceEdit])),
     ("additionalTextEdits", optional (list textEdit)),
     ("command", optional command),
     ("commitCharacters", optional (list text)),
     ("data", optional any),
     ("tags", optional (list int32))]

def codeAction : Schema :=
  record "CodeAction"
    [("title", text),
     ("kind", optional text),
     ("diagnostics", optional (list diagnostic)),
     ("edit", optional (record "WorkspaceEdit"
       [("changes", optional any), ("documentChanges", optional any),
        ("changeAnnotations", optional any)])),
     ("command", optional command),
     ("isPreferred", optional flag),
     ("disabled", optional (record "CodeActionDisabled" [("reason", text)])),
     ("data", optional any)]

def workspaceSymbol : Schema :=
  record "WorkspaceSymbol"
    [("name", text), ("kind", int32), ("tags", optional (list int32)),
     ("containerName", optional text),
     ("location", oneOf "OneOf" [location, record "WorkspaceLocation" [("uri", address)]]),
     ("data", optional any)]

end CwebHighlight.Rpc.Schema
