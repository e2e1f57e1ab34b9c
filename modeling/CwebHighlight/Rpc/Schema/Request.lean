import CwebHighlight.Rpc.Schema.Capability

/-!
# Schemas of whole parameters

The parameters of the methods that the server offers, and of the requests that the protocol
knows and the server does not offer: those are still read before a request is refused.
-/

namespace CwebHighlight.Rpc.Schema

/-! ## Methods that are offered -/

def introduction : Schema :=
  record "InitializeParams"
    [("processId", optional word32),
     ("rootPath", optional text),
     ("rootUri", defaulted (optional address)),
     ("initializationOptions", optional any),
     ("capabilities", capabilities),
     ("trace", defaulted (optional (choice ["off", "messages", "verbose"]))),
     ("workspaceFolders",
       optional (list (record "WorkspaceFolder" [("uri", address), ("name", text)]))),
     ("clientInfo", optional (record "ClientInfo" [("name", text), ("version", optional text)])),
     ("locale", optional text)]

def introduced : Schema := record "InitializedParams" []

def didOpen : Schema := record "DidOpenTextDocumentParams" [("textDocument", documentItem)]

def didChange : Schema :=
  record "DidChangeTextDocumentParams"
    [("textDocument", versionedIdentifier), ("contentChanges", list contentChange)]

def didClose : Schema := record "DidCloseTextDocumentParams" [document]

def semanticTokens : Schema :=
  composed "SemanticTokensParams" [document] [workPart, partialPart] any

/-! ## Requests about a place -/

/-- The parameters of a search for where something is introduced. -/
def search : Schema := placed "GotoDefinitionParams" [] [workPart, partialPart]

def signatureHelp : Schema :=
  let documentation := optional (oneOf "Documentation" [text, markup])
  let parameter := record "ParameterInformation"
    [("label", oneOf "ParameterLabel" [text, list word32]), ("documentation", documentation)]
  let signature := record "SignatureInformation"
    [("label", text), ("documentation", documentation), ("parameters", optional (list parameter)),
     ("activeParameter", optional word32)]
  let help := record "SignatureHelp"
    [("signatures", list signature), ("activeSignature", optional word32),
     ("activeParameter", optional word32)]
  placed "SignatureHelpParams"
    [("context", optional (record "SignatureHelpContext"
       [("triggerKind", int32), ("triggerCharacter", optional text), ("isRetrigger", flag),
        ("activeSignatureHelp", optional help)]))]
    [workPart]

def formattingOptions : Schema :=
  composed "FormattingOptions"
    [("tabSize", word32), ("insertSpaces", flag), ("trimTrailingWhitespace", optional flag),
     ("insertFinalNewline", optional flag), ("trimFinalNewlines", optional flag)]
    [] (oneOf "FormattingProperty" [flag, int32, text])

/-- Requests about a place, by name. -/
def placeRequests : List (String × Schema) := [
  ("textDocument/declaration", search),
  ("textDocument/definition", search),
  ("textDocument/typeDefinition", search),
  ("textDocument/implementation", search),
  ("textDocument/references", placed "ReferenceParams"
    [("context", record "ReferenceContext" [("includeDeclaration", flag)])]
    [workPart, partialPart]),
  ("textDocument/prepareCallHierarchy", placed "CallHierarchyPrepareParams" [] [workPart]),
  ("textDocument/prepareTypeHierarchy", placed "TypeHierarchyPrepareParams" [] [workPart]),
  ("textDocument/documentHighlight",
    placed "DocumentHighlightParams" [] [workPart, partialPart]),
  ("textDocument/hover", placed "HoverParams" [] [workPart]),
  ("textDocument/moniker", placed "MonikerParams" [] [workPart, partialPart]),
  ("textDocument/completion", placed "CompletionParams"
    [("context", optional (record "CompletionContext"
       [("triggerKind", int32), ("triggerCharacter", optional text)]))]
    [workPart, partialPart]),
  ("textDocument/signatureHelp", signatureHelp),
  ("textDocument/onTypeFormatting", placed "DocumentOnTypeFormattingParams"
    [("ch", text), ("options", formattingOptions)] []),
  ("textDocument/rename", placed "RenameParams" [("newName", text)] [workPart]),
  ("textDocument/prepareRename", record "TextDocumentPositionParams" placePart),
  ("textDocument/linkedEditingRange", placed "LinkedEditingRangeParams" [] [workPart])]

/-! ## Requests about a document -/

/-- Parameters that name a document. -/
def about (typeName : String) (fields : List (String × Schema))
    (parts : List (List (String × Schema))) : Schema :=
  composed typeName (document :: fields) parts any

/-- Requests about a document as a whole or a range of it, by name. -/
def documentRequests : List (String × Schema) := [
  ("textDocument/willSaveWaitUntil",
    record "WillSaveTextDocumentParams" [document, ("reason", int32)]),
  ("textDocument/documentLink", about "DocumentLinkParams" [] [workPart, partialPart]),
  ("textDocument/codeLens", about "CodeLensParams" [] [workPart, partialPart]),
  ("textDocument/foldingRange", about "FoldingRangeParams" [] [workPart, partialPart]),
  ("textDocument/selectionRange",
    about "SelectionRangeParams" [("positions", list position)] [workPart, partialPart]),
  ("textDocument/documentSymbol", about "DocumentSymbolParams" [] [workPart, partialPart]),
  ("textDocument/semanticTokens/full/delta",
    about "SemanticTokensDeltaParams" [("previousResultId", text)] [workPart, partialPart]),
  ("textDocument/semanticTokens/range",
    about "SemanticTokensRangeParams" [("range", range)] [workPart, partialPart]),
  ("textDocument/inlineValue", about "InlineValueParams"
    [("range", range), ("context", record "InlineValueContext"
       [("frameId", int32), ("stoppedLocation", range)])]
    [workPart]),
  ("textDocument/inlayHint", about "InlayHintParams" [("range", range)] [workPart]),
  ("textDocument/diagnostic", about "DocumentDiagnosticParams"
    [("identifier", optional text), ("previousResultId", optional text)]
    [workPart, partialPart]),
  ("textDocument/codeAction", about "CodeActionParams"
    [("range", range), ("context", record "CodeActionContext"
       [("diagnostics", list diagnostic), ("only", optional (list text)),
        ("triggerKind", optional int32)])]
    [workPart, partialPart]),
  ("textDocument/documentColor", about "DocumentColorParams" [] [workPart, partialPart]),
  ("textDocument/colorPresentation", about "ColorPresentationParams"
    [("color", record "Color"
       [("red", number), ("green", number), ("blue", number), ("alpha", number)]),
     ("range", range)]
    [workPart, partialPart]),
  ("textDocument/formatting",
    about "DocumentFormattingParams" [("options", formattingOptions)] [workPart]),
  ("textDocument/rangeFormatting", about "DocumentRangeFormattingParams"
    [("range", range), ("options", formattingOptions)] [workPart])]

/-! ## Other requests -/

/-- Requests about items that were answered before, by name. -/
def itemRequests : List (String × Schema) := [
  ("callHierarchy/incomingCalls", composed "CallHierarchyIncomingCallsParams"
    [("item", callHierarchyItem)] [workPart, partialPart] any),
  ("callHierarchy/outgoingCalls", composed "CallHierarchyOutgoingCallsParams"
    [("item", callHierarchyItem)] [workPart, partialPart] any),
  ("typeHierarchy/supertypes", composed "TypeHierarchySupertypesParams"
    [("item", typeHierarchyItem)] [workPart, partialPart] any),
  ("typeHierarchy/subtypes", composed "TypeHierarchySubtypesParams"
    [("item", typeHierarchyItem)] [workPart, partialPart] any),
  ("documentLink/resolve", documentLink),
  ("codeLens/resolve", codeLens),
  ("inlayHint/resolve", inlayHint),
  ("completionItem/resolve", completionItem),
  ("codeAction/resolve", codeAction),
  ("workspaceSymbol/resolve", workspaceSymbol)]

/-- Requests about the workspace, by name. -/
def workspaceRequests : List (String × Schema) := [
  ("workspace/diagnostic", composed "WorkspaceDiagnosticParams"
    [("identifier", optional text),
     ("previousResultIds",
       list (record "PreviousResultId" [("uri", address), ("value", text)]))]
    [workPart, partialPart] any),
  ("workspace/symbol",
    composed "WorkspaceSymbolParams" [("query", text)] [partialPart, workPart] any),
  ("workspace/willCreateFiles", record "CreateFilesParams"
    [("files", list (record "FileCreate" [("uri", text)]))]),
  ("workspace/willRenameFiles", record "RenameFilesParams"
    [("files", list (record "FileRename" [("oldUri", text), ("newUri", text)]))]),
  ("workspace/willDeleteFiles", record "DeleteFilesParams"
    [("files", list (record "FileDelete" [("uri", text)]))]),
  ("workspace/executeCommand", composed "ExecuteCommandParams"
    [("command", text), ("arguments", defaulted (list any))] [workPart] any)]

/-- All requests that the server does not offer, by name. -/
def otherRequests : List (String × Schema) :=
  placeRequests ++ documentRequests ++ itemRequests ++ workspaceRequests

end CwebHighlight.Rpc.Schema
