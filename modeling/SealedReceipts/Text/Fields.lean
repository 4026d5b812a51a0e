/-!
# Texts in fields

A text cut at every occurrence of a character. There is always one field more than separators.
-/

namespace SealedReceipts

namespace Text

/-- Cuts a text behind the field read so far, last character first. -/
def fieldsFrom (separator : Char) (field : List Char) : List Char → List (List Char)
  | [] => [field.reverse]
  | c :: rest =>
    if c = separator then field.reverse :: fieldsFrom separator [] rest
    else fieldsFrom separator (c :: field) rest

def fields (separator : Char) (text : List Char) : List (List Char) :=
  fieldsFrom separator [] text

end Text

end SealedReceipts
