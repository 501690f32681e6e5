namespace SloCompiler.Text

def isRegexSpecial (c : Char) : Bool :=
  "()[]\x7b\x7d?*+-|^$\\.&~# \t\n\r\x0b\x0c".toList.contains c

def regexLiteral (s : String) : String :=
  String.ofList <| s.toList.flatMap fun c => if isRegexSpecial c then ['\\', c] else [c]

end SloCompiler.Text
