import AgentWorkflow.Hash.Sha256
import AgentWorkflow.Text.Table
import AgentWorkflow.Text.Utf8

/-!
# The payload hash

One digest for all files of a project, their names and their order included: every name and every
content is followed by a zero byte.
-/

namespace AgentWorkflow

namespace Project

/-- The bytes that stand for files. -/
def payload (files : Table Text) : List UInt8 :=
  files.flatMap fun (name, content) => name.utf8 ++ [0] ++ content.utf8 ++ [0]

def payloadHash (files : Table Text) : Text :=
  (Sha256.digest (payload files)).flatMap fun w => Text.hex 8 w.toNat

end Project

end AgentWorkflow
