import TextTemplate.Element.Scan

set_option autoImplicit false

/-! # Layout

The second pass over the elements. A tag on a line of its own should not leave the line break behind, so the text
before a tag loses one trailing line break and the text after a tag one leading line break. Comments disappear,
and so do texts that end up empty.

A literal tag turns everything up to its end tag back into text: the elements of the block are written out as they
stood in the source. -/

namespace TextTemplate

namespace Element

/-! ## Literal blocks -/

/-- An element as it stands in a source. Right delimiters within it are escaped. -/
def written (delimiters : Delimiters) (element : Element) : List Char :=
  let text := element.text.toList
  let body := Text.replaceAll delimiters.closing ('\\' :: delimiters.closing) text
  match element.kind with
  | .text => text
  | .comment => delimiters.opening ++ '*' :: text ++ '*' :: delimiters.closing
  | .expression | .tag .normal _ => delimiters.opening ++ body ++ delimiters.closing
  | .tag .single _ => delimiters.opening ++ body ++ '/' :: delimiters.closing
  | .tag .closing _ => delimiters.opening ++ '/' :: body ++ delimiters.closing

/-- Whether the element is the end tag `name`. -/
def isEndOf (name : String) (element : Element) : Bool :=
  element.kind == .tag .closing name

/-! ## Line breaks -/

/-- The text of an element without the line break after the tag before it and without the one before the tag behind
it. -/
def trimmed (afterTag beforeTag : Bool) (text : String) : String :=
  let text := text.toList
  let text := if afterTag then Text.dropLeading '\n' text else text
  String.ofList (if beforeTag then Text.dropTrailing '\n' text else text)

/-- Lays out the elements; `afterTag` says whether a tag comes directly before them. -/
def layoutFrom (delimiters : Delimiters) (isLiteral : String → Bool) (afterTag : Bool)
    (elements : List Element) : Scanned :=
  match elements with
  | [] => ⟨[], []⟩
  | element :: rest =>
    match element.kind with
    | .comment => layoutFrom delimiters isLiteral false rest
    | .text | .expression =>
      let text := trimmed afterTag (rest.head?.any (·.kind.isTag)) element.text
      let more := layoutFrom delimiters isLiteral false rest
      ⟨if text = "" then more.elements else { element with text } :: more.elements, more.problems⟩
    | .tag form name =>
      if !isLiteral name then
        let more := layoutFrom delimiters isLiteral true rest
        ⟨element :: more.elements, more.problems⟩
      -- a literal tag without a block has nothing to copy
      else if form = .single then layoutFrom delimiters isLiteral false rest
      else
        let block := rest.takeWhile fun e => !isEndOf name e
        let text := String.ofList (block.flatMap (written delimiters))
        let here := if text = "" then [] else [⟨.text, text, element.line⟩]
        match h : rest.dropWhile fun e => !isEndOf name e with
        | [] => ⟨here, [⟨element.line, .unterminatedLiteral name⟩]⟩
        | _ :: behind =>
          have : behind.length < rest.length :=
            (h ▸ List.dropWhile_suffix fun e => !isEndOf name e : _ :: behind <:+ rest).length_le
          let more := layoutFrom delimiters isLiteral false behind
          ⟨here ++ more.elements, more.problems⟩
termination_by elements.length

/-- The elements of a scan after both passes. -/
def layout (delimiters : Delimiters) (isLiteral : String → Bool) (elements : List Element) : Scanned :=
  layoutFrom delimiters isLiteral false elements

/-- Scans a source and lays out its elements. -/
def read (delimiters? : Option Delimiters) (isLiteral : String → Bool) (source : String) : Scanned :=
  let scanned := scan delimiters? source
  match delimiters? with
  | none => scanned
  | some delimiters =>
    let laidOut := layout delimiters isLiteral scanned.elements
    ⟨laidOut.elements, scanned.problems ++ laidOut.problems⟩

end Element

end TextTemplate
