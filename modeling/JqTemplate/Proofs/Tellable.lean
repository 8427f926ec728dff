import JqTemplate.Proofs.Outcomes
import JqTemplate.Proofs.Store
import JqTemplate.Server.Session

namespace JqTemplate.Server

open Editor (Marker)
open Text (CodePoint)

end JqTemplate.Server
