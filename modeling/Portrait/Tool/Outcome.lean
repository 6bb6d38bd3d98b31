namespace Portrait

structure Outcome where
  exit : Nat := 0
  stdout : String := ""
  stderr : String := ""
  deriving DecidableEq

def unlines (lines : List String) : String := String.join (lines.map (· ++ "\n"))

def verdict (errors warnings : Nat) : String :=
  if 0 < errors then "❌ " ++ toString errors ++ " 个错误, " ++ toString warnings ++ " 个警告"
  else if 0 < warnings then "⚠️  0 个错误, " ++ toString warnings ++ " 个警告"
  else "✅ 检查通过，无错误"

end Portrait
