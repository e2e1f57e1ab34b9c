import CwebHighlight.Rpc.Schema.Document

/-!
# Schemas of an editor's capabilities

What an editor tells about itself when it begins a session.
-/

namespace CwebHighlight.Rpc.Schema

/-! ## Shared capabilities -/

/-- Flags that need not be there. -/
def flags (names : List String) : List (String × Schema) := names.map (·, optional flag)

def dynamicRegistration : List (String × Schema) := flags ["dynamicRegistration"]

/-- A capability that can be registered later. -/
def dynamic (typeName : String) : Schema := optional (record typeName dynamicRegistration)

def refreshable (typeName : String) : Schema :=
  optional (record typeName (flags ["refreshSupport"]))

def gotoCapability : Schema :=
  optional (record "GotoCapability" (flags ["dynamicRegistration", "linkSupport"]))

def resolvable (typeName : String) : Schema :=
  optional (record typeName [("properties", list text)])

def symbolKinds : Schema :=
  optional (record "SymbolKindCapability" [("valueSet", optional (list int32))])

/-- Tags, or a flag in their place. -/
def tagSupport : Schema :=
  defaulted (optional (flagOr (record "TagSupport" [("valueSet", list int32)])))

/-! ## The workspace -/

def workspaceEdit : Schema :=
  record "WorkspaceEditClientCapabilities"
    [("documentChanges", optional flag),
     ("resourceOperations", optional (list (choice ["create", "rename", "delete"]))),
     ("failureHandling",
       optional (choice ["abort", "transactional", "textOnlyTransactional", "undo"])),
     ("normalizesLineEndings", optional flag),
     ("changeAnnotationSupport", optional (record
       "ChangeAnnotationWorkspaceEditClientCapabilities" (flags ["groupsOnLabel"])))]

def workspaceCapabilities : Schema :=
  record "WorkspaceClientCapabilities"
    [("applyEdit", optional flag),
     ("workspaceEdit", optional workspaceEdit),
     ("didChangeConfiguration", dynamic "DynamicRegistrationClientCapabilities"),
     ("didChangeWatchedFiles", optional (record "DidChangeWatchedFilesClientCapabilities"
       (flags ["dynamicRegistration", "relativePatternSupport"]))),
     ("symbol", optional (record "WorkspaceSymbolClientCapabilities"
       (dynamicRegistration ++
         [("symbolKind", symbolKinds), ("tagSupport", tagSupport),
          ("resolveSupport", resolvable "WorkspaceSymbolResolveSupportCapability")]))),
     ("executeCommand", dynamic "DynamicRegistrationClientCapabilities"),
     ("workspaceFolders", optional flag),
     ("configuration", optional flag),
     ("semanticTokens", refreshable "SemanticTokensWorkspaceClientCapabilities"),
     ("codeLens", refreshable "CodeLensWorkspaceClientCapabilities"),
     ("fileOperations", optional (record "WorkspaceFileOperationsClientCapabilities"
       (flags ["dynamicRegistration", "didCreate", "willCreate", "didRename", "willRename",
         "didDelete", "willDelete"]))),
     ("inlineValue", refreshable "InlineValueWorkspaceClientCapabilities"),
     ("inlayHint", refreshable "InlayHintWorkspaceClientCapabilities"),
     ("diagnostic", refreshable "DiagnosticWorkspaceClientCapabilities")]

/-! ## Documents -/

def completionCapability : Schema :=
  record "CompletionClientCapabilities"
    [("dynamicRegistration", optional flag),
     ("completionItem", optional (record "CompletionItemCapability"
       [("snippetSupport", optional flag),
        ("commitCharactersSupport", optional flag),
        ("documentationFormat", optional (list markupKind)),
        ("deprecatedSupport", optional flag),
        ("preselectSupport", optional flag),
        ("tagSupport", tagSupport),
        ("insertReplaceSupport", optional flag),
        ("resolveSupport", resolvable "CompletionItemCapabilityResolveSupport"),
        ("insertTextModeSupport",
          optional (record "InsertTextModeSupport" [("valueSet", list int32)])),
        ("labelDetailsSupport", optional flag)])),
     ("completionItemKind", optional (record "CompletionItemKindCapability"
       [("valueSet", optional (list int32))])),
     ("contextSupport", optional flag),
     ("insertTextMode", optional int32),
     ("completionList", optional (record "CompletionListCapability"
       [("itemDefaults", optional (list text))]))]

def signatureHelpCapability : Schema :=
  record "SignatureHelpClientCapabilities"
    [("dynamicRegistration", optional flag),
     ("signatureInformation", optional (record "SignatureInformationSettings"
       [("documentationFormat", optional (list markupKind)),
        ("parameterInformation",
          optional (record "ParameterInformationSettings" (flags ["labelOffsetSupport"]))),
        ("activeParameterSupport", optional flag)])),
     ("contextSupport", optional flag)]

def codeActionCapability : Schema :=
  record "CodeActionClientCapabilities"
    [("dynamicRegistration", optional flag),
     ("codeActionLiteralSupport", optional (record "CodeActionLiteralSupport"
       [("codeActionKind", record "CodeActionKindLiteralSupport" [("valueSet", list text)])])),
     ("isPreferredSupport", optional flag),
     ("disabledSupport", optional flag),
     ("dataSupport", optional flag),
     ("resolveSupport", resolvable "CodeActionCapabilityResolveSupport"),
     ("honorsChangeAnnotations", optional flag)]

def foldingRangeCapability : Schema :=
  record "FoldingRangeClientCapabilities"
    [("dynamicRegistration", optional flag),
     ("rangeLimit", optional word32),
     ("lineFoldingOnly", optional flag),
     ("foldingRangeKind", optional (record "FoldingRangeKindCapability"
       [("valueSet", optional (list (choice ["comment", "imports", "region"])))])),
     ("foldingRange", optional (record "FoldingRangeCapability" (flags ["collapsedText"])))]

def semanticTokensCapability : Schema :=
  record "SemanticTokensClientCapabilities"
    [("dynamicRegistration", optional flag),
     ("requests", record "SemanticTokensClientCapabilitiesRequests"
       [("range", optional flag),
        ("full", optional (oneOf "SemanticTokensFullOptions"
          [flag, record "SemanticTokensFullOptions" (flags ["delta"])]))]),
     ("tokenTypes", list text),
     ("tokenModifiers", list text),
     ("formats", list text),
     ("overlappingTokenSupport", optional flag),
     ("multilineTokenSupport", optional flag),
     ("serverCancelSupport", optional flag),
     ("augmentsSyntaxTokens", optional flag)]

def documentCapabilities : Schema :=
  record "TextDocumentClientCapabilities"
    [("synchronization", optional (record "TextDocumentSyncClientCapabilities"
       (flags ["dynamicRegistration", "willSave", "willSaveWaitUntil", "didSave"]))),
     ("completion", optional completionCapability),
     ("hover", optional (record "HoverClientCapabilities"
       (dynamicRegistration ++ [("contentFormat", optional (list markupKind))]))),
     ("signatureHelp", optional signatureHelpCapability),
     ("references", dynamic "DynamicRegistrationClientCapabilities"),
     ("documentHighlight", dynamic "DynamicRegistrationClientCapabilities"),
     ("documentSymbol", optional (record "DocumentSymbolClientCapabilities"
       (dynamicRegistration ++
         [("symbolKind", symbolKinds), ("hierarchicalDocumentSymbolSupport", optional flag),
          ("tagSupport", tagSupport)]))),
     ("formatting", dynamic "DynamicRegistrationClientCapabilities"),
     ("rangeFormatting", dynamic "DynamicRegistrationClientCapabilities"),
     ("onTypeFormatting", dynamic "DynamicRegistrationClientCapabilities"),
     ("declaration", gotoCapability),
     ("definition", gotoCapability),
     ("typeDefinition", gotoCapability),
     ("implementation", gotoCapability),
     ("codeAction", optional codeActionCapability),
     ("codeLens", dynamic "DynamicRegistrationClientCapabilities"),
     ("documentLink", optional (record "DocumentLinkClientCapabilities"
       (flags ["dynamicRegistration", "tooltipSupport"]))),
     ("colorProvider", dynamic "DynamicRegistrationClientCapabilities"),
     ("rename", optional (record "RenameClientCapabilities"
       [("dynamicRegistration", optional flag), ("prepareSupport", optional flag),
        ("prepareSupportDefaultBehavior", optional int32),
        ("honorsChangeAnnotations", optional flag)])),
     ("publishDiagnostics", optional (record "PublishDiagnosticsClientCapabilities"
       [("relatedInformation", optional flag), ("tagSupport", tagSupport),
        ("versionSupport", optional flag), ("codeDescriptionSupport", optional flag),
        ("dataSupport", optional flag)])),
     ("foldingRange", optional foldingRangeCapability),
     ("selectionRange", dynamic "SelectionRangeClientCapabilities"),
     ("linkedEditingRange", dynamic "DynamicRegistrationClientCapabilities"),
     ("callHierarchy", dynamic "DynamicRegistrationClientCapabilities"),
     ("semanticTokens", optional semanticTokensCapability),
     ("moniker", dynamic "DynamicRegistrationClientCapabilities"),
     ("typeHierarchy", dynamic "DynamicRegistrationClientCapabilities"),
     ("inlineValue", dynamic "DynamicRegistrationClientCapabilities"),
     ("inlayHint", optional (record "InlayHintClientCapabilities"
       (dynamicRegistration ++
         [("resolveSupport", resolvable "InlayHintResolveClientCapabilities")]))),
     ("diagnostic", optional (record "DiagnosticClientCapabilities"
       (flags ["dynamicRegistration", "relatedDocumentSupport"])))]

/-! ## The editor -/

def notebookCapabilities : Schema :=
  record "NotebookDocumentClientCapabilities"
    [("synchronization", record "NotebookDocumentSyncClientCapabilities"
       (flags ["dynamicRegistration", "executionSummaryReport"]))]

def windowCapabilities : Schema :=
  record "WindowClientCapabilities"
    [("workDoneProgress", optional flag),
     ("showMessage", optional (record "ShowMessageRequestClientCapabilities"
       [("messageActionItem", optional (record "MessageActionItemCapabilities"
         (flags ["additionalPropertiesSupport"])))])),
     ("showDocument", optional (record "ShowDocumentClientCapabilities" [("support", flag)]))]

def generalCapabilities : Schema :=
  record "GeneralClientCapabilities"
    [("regularExpressions", optional (record "RegularExpressionsClientCapabilities"
       [("engine", text), ("version", optional text)])),
     ("markdown", optional (record "MarkdownClientCapabilities"
       [("parser", text), ("version", optional text), ("allowedTags", optional (list text))])),
     ("staleRequestSupport", optional (record "StaleRequestSupportClientCapabilities"
       [("cancel", flag), ("retryOnContentModified", list text)])),
     ("positionEncodings", optional (list text))]

def capabilities : Schema :=
  record "ClientCapabilities"
    [("workspace", optional workspaceCapabilities),
     ("textDocument", optional documentCapabilities),
     ("notebookDocument", optional notebookCapabilities),
     ("window", optional windowCapabilities),
     ("general", optional generalCapabilities),
     ("experimental", optional any)]

end CwebHighlight.Rpc.Schema
