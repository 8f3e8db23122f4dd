import LspBridge.Path
import LspBridge.Text.Blank
/-!
# Which modules and files the Spring Boot language server serves

A module uses Spring when one of its library roots mentions `spring-core` or `spring-boot`. A file
is served in such a module unless it is XML (by its extension, in any case) and not a Spring bean
definition, that is, a document whose root element is in the beans namespace.

The namespace of the root element is found without a full XML reader: byte order marks, blanks,
processing instructions, comments and the document type (with an internal subset in brackets and
quoted text in it) are skipped; then the start tag's attributes are scanned in order for the one
that declares the element's prefix (`xmlns` when it has none, `xmlns:p` for prefix `p`). An
attribute needs `=` and a quoted value; a malformed prolog or tag, or the end of the tag, means no
namespace.
-/

namespace LspBridge

namespace Spring

/-- The namespace of Spring bean definition files. -/
def beansNamespace : String := "http://www.springframework.org/schema/beans"

/-- The library names that mark a Spring module. -/
def libraryMarkers : List String := ["spring-core", "spring-boot"]

/-- The byte order mark. -/
def byteOrderMark : Char := Char.ofNat 0xFEFF

/-- The single quote. -/
def apostrophe : Char := Char.ofNat 0x27

/-- The text after the first occurrence of a non-empty pattern, if it occurs. -/
def afterFirst (pat : List Char) : List Char → Option (List Char)
  | [] => none
  | c :: rest =>
    if pat.isPrefixOf (c :: rest) then some ((c :: rest).drop pat.length) else afterFirst pat rest

/-- Whether a module with these library roots uses Spring. -/
def isSpringModule (roots : List String) : Bool :=
  roots.any fun root =>
    libraryMarkers.any fun marker => (afterFirst marker.toList root.toList).isSome

/-- The text after a document type declaration's closing `>`, given what follows `<!`; brackets
nest and quoted text is skipped. -/
def skipDeclaration (depth : Nat) (quote : Option Char) : List Char → Option (List Char)
  | [] => none
  | c :: rest =>
    match quote with
    | some q => skipDeclaration depth (if c == q then none else quote) rest
    | none =>
      if c == '"' || c == apostrophe then skipDeclaration depth (some c) rest
      else if c == '[' then skipDeclaration (depth + 1) none rest
      else if c == ']' then skipDeclaration (depth - 1) none rest
      else if c == '>' && depth == 0 then some rest
      else skipDeclaration depth none rest

/-- Whether an attribute name declares the namespace of the given element prefix. -/
def declaresPrefix (elementPrefix : Option (List Char)) (attr : List Char) : Bool :=
  match elementPrefix, (if "xmlns".toList.isPrefixOf attr then some (attr.drop 5) else none) with
  | none, some [] => true
  | some p, some (':' :: rest) => rest == p
  | _, _ => false

/-- Scans a start tag's attributes for the declaration of the element's namespace. -/
def attributeNamespace (elementPrefix : Option (List Char)) : Nat → List Char → Option String
  | 0, _ => none
  | fuel + 1, cs =>
    match Text.dropBlank cs with
    | [] | '>' :: _ | '/' :: '>' :: _ => none
    | cs =>
      match cs.span (· ≠ '=') with
      | (_, []) => none
      | (name, _ :: value) =>
        let attr := (Text.dropBlank name.reverse).reverse
        match Text.dropBlank value with
        | q :: body =>
          if q == '"' || q == apostrophe then
            match body.span (· ≠ q) with
            | (_, []) => none
            | (inside, _ :: rest) =>
              if declaresPrefix elementPrefix attr then some (String.ofList inside)
              else attributeNamespace elementPrefix fuel rest
          else none
        | [] => none

/-- The namespace declared for a start tag's element, given the text after its `<`. -/
def startTagNamespace (tag : List Char) : Option String :=
  let name := tag.takeWhile fun c => !(Text.isBlank c || c == '/' || c == '>')
  if name.length == tag.length || name.isEmpty then none
  else
    let elementPrefix := if name.contains ':' then some (name.takeWhile (· ≠ ':')) else none
    attributeNamespace elementPrefix tag.length (tag.drop name.length)

/-- The namespace of the root element after the prolog, given the text left to read. -/
def prologNamespace : Nat → List Char → Option String
  | 0, _ => none
  | fuel + 1, cs =>
    match Text.dropBlank cs with
    | '<' :: '?' :: after => (afterFirst ['?', '>'] after).bind (prologNamespace fuel)
    | '<' :: '!' :: '-' :: '-' :: after =>
      (afterFirst ['-', '-', '>'] after).bind (prologNamespace fuel)
    | '<' :: '!' :: after => (skipDeclaration 0 none after).bind (prologNamespace fuel)
    | '<' :: after => startTagNamespace after
    | _ => none

/-- The namespace URI of a document's root element, if it has one and the prolog is well formed. -/
def rootNamespace (xml : String) : Option String :=
  prologNamespace (xml.length + 1) (xml.toList.dropWhile (· == byteOrderMark))

/-- Whether a document is a Spring bean definition. -/
def isBeansXml (xml : String) : Bool := rootNamespace xml == some beansNamespace

/-- Whether the server understands a file: anything but XML, and XML bean definitions. -/
def isSupportedLanguage (path content : String) : Bool :=
  match Path.extension? path with
  | some ext => ext.toLower != "xml" || isBeansXml content
  | none => true

/-- Whether a file in a module with these library roots is served. -/
def isFileSupported (roots : List String) (path content : String) : Bool :=
  isSpringModule roots && isSupportedLanguage path content

end Spring

end LspBridge
