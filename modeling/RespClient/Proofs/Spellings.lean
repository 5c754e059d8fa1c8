import RespClient.Proofs.Addresses

set_option autoImplicit false

namespace RespClient.Address

end RespClient.Address
