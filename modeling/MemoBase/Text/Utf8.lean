import MemoBase.Text.Basic

namespace MemoBase.Text

def utf8 (s : Text) : List UInt8 :=
  (String.ofList s).toUTF8.toList

def ofUtf8? (bytes : List UInt8) : Option Text :=
  (String.fromUTF8? ⟨bytes.toArray⟩).map String.toList

end MemoBase.Text
