import Arbitrage.Bytes

/-!
# Method selectors

The first four bytes of the data of a call name the method: they are the first four bytes of the
Keccak-256 hash of its signature, given here with each of them.
-/

namespace Arbitrage.Selector

/-- Selector of `approve(address,uint256)`. -/
def approve : Bytes := [0x09, 0x5e, 0xa7, 0xb3]

/-- Selector of `join(uint256)`. -/
def join : Bytes := [0x04, 0x98, 0x78, 0xf3]

/-- Selector of `exit(uint256)`. -/
def exit : Bytes := [0x7f, 0x86, 0x61, 0xa1]

/-- Selector of `boom(uint256)`. -/
def boom : Bytes := [0xb4, 0x43, 0xa0, 0x85]

/-- Selector of `bust(uint256)`. -/
def bust : Bytes := [0xaf, 0x37, 0x8c, 0xe5]

/-- Selector of `take(bytes32,uint128)`. -/
def take : Bytes := [0x49, 0x60, 0x64, 0x55]

/-- Selector of `execute(address[],(address,bytes)[])`, the one function of the batch executor. -/
def execute : Bytes := [0x58, 0xa3, 0x54, 0xe0]

/-- Selector of `gem()`. -/
def gem : Bytes := [0x7b, 0xd2, 0xbe, 0xa7]

/-- Selector of `skr()`. -/
def skr : Bytes := [0x0f, 0x8a, 0x77, 0x1e]

/-- Selector of `sai()`. -/
def sai : Bytes := [0x91, 0x66, 0xcb, 0xa4]

/-- Selector of `pip()`. -/
def pip : Bytes := [0xd7, 0x41, 0xe2, 0xf9]

/-- Selector of `per()`. -/
def per : Bytes := [0x7e, 0xc9, 0xc3, 0xb8]

/-- Selector of `off()`. -/
def off : Bytes := [0x66, 0x26, 0xb2, 0x6d]

/-- Selector of `s2s()`. -/
def s2s : Bytes := [0x65, 0xd1, 0xdf, 0x24]

/-- Selector of `gap()`. -/
def gap : Bytes := [0x6c, 0x32, 0xc0, 0xa6]

/-- Selector of `joy()`. -/
def joy : Bytes := [0x46, 0x5b, 0x43, 0xd0]

/-- Selector of `woe()`. -/
def woe : Bytes := [0x2d, 0xa8, 0xd3, 0xe6]

/-- Selector of `fog()`. -/
def fog : Bytes := [0x72, 0x96, 0x35, 0x9a]

/-- Selector of `peek()`. -/
def peek : Bytes := [0x59, 0xe0, 0x2d, 0xd7]

/-- Selector of `last_offer_id()`. -/
def lastOfferId : Bytes := [0x23, 0x2c, 0xae, 0x0b]

/-- Selector of `offers(uint256)`. -/
def offers : Bytes := [0x8a, 0x72, 0xea, 0x6a]

/-- Selector of `balanceOf(address)`. -/
def balanceOf : Bytes := [0x70, 0xa0, 0x82, 0x31]

/-- Selector of `allowance(address,address)`. -/
def allowance : Bytes := [0xdd, 0x62, 0xed, 0x3e]

end Arbitrage.Selector
